import RegistryConsole.Instant.Rfc3339
import RegistryConsole.Json.Printer
import RegistryConsole.Text.Quoted
/-!
# Mismatches

Why a JSON value does not have the shape of a typed one, each cause with its wording.
-/
namespace RegistryConsole.Json

/-- What was found where something else was expected. -/
inductive Found where
  | null
  | bool (b : Bool)
  | number (n : Number)
  | string (s : String)
  | sequence
  | map
  deriving Inhabited

def Found.of : Json → Found
  | .null => .null
  | .bool b => .bool b
  | .number n => .number n
  | .string s => .string s
  | .array _ => .sequence
  | .object _ => .map

def Found.text : Found → String
  | .null => "null"
  | .bool true => "boolean `true`"
  | .bool false => "boolean `false`"
  | .number (.whole n) => "integer `" ++ String.ofList (Text.signedDecimal n) ++ "`"
  | .number (.double x) => "floating point `" ++ String.ofList (doubleText x) ++ "`"
  | .string s => "string " ++ Text.showQuoted s
  | .sequence => "sequence"
  | .map => "map"

inductive Wanted where
  | text
  | boolean
  | sequence
  | instant
  /-- An unsigned or signed number of some bits. -/
  | unsigned (bits : Nat)
  | signed (bits : Nat)
  | record (name : String)
  | variant
  | variantIndex (count : Nat)
  | tagged (name : String)
  deriving DecidableEq

private def numeral (n : Nat) : String :=
  String.ofList (Text.decimal n)

def Wanted.wording : Wanted → String
  | .text => "a string"
  | .boolean => "a boolean"
  | .sequence => "a sequence"
  | .instant => "an RFC 3339 formatted date and time string"
  | .unsigned bits => "u" ++ numeral bits
  | .signed bits => "i" ++ numeral bits
  | .record name => "struct " ++ name
  | .variant => "variant identifier"
  | .variantIndex count => "variant index 0 <= i < " ++ numeral count
  | .tagged name => "internally tagged enum " ++ name

inductive WantedLength where
  /-- The fields of a record. -/
  | record (name : String) (count : Nat)
  /-- The fields of one variant of a tagged value. -/
  | variantFields (name : String) (count : Nat)
  /-- No more than were read of an array. -/
  | fewerItems
  /-- Exactly those that were read of the rest of a sequence. -/
  | itemsRead (count : Nat)
  deriving DecidableEq

private def elements (count : Nat) : String :=
  numeral count ++ (if count = 1 then " element" else " elements")

def WantedLength.text : WantedLength → String
  | .record name count => "struct " ++ name ++ " with " ++ elements count
  | .variantFields name count => "struct variant " ++ name ++ " with " ++ elements count
  | .fewerItems => "fewer elements in array"
  | .itemsRead count => elements count ++ " in sequence"

inductive Mismatch where
  | wrongType (found : Found) (wanted : Wanted)
  | wrongValue (found : Found) (wanted : Wanted)
  | wrongLength (length : Nat) (wanted : WantedLength)
  | missingField (key : String)
  | duplicateField (key : String)
  | unknownVariant (found : String) (known : List String)
  | badInstant (cause : Instant.ReadError)
  deriving Inhabited

/-- The known variants in prose: with "or" between two, as a list after "one of" otherwise. -/
def alternatives : List String → String
  | [] => "there are no variants"
  | [a] => "expected `" ++ a ++ "`"
  | [a, b] => "expected `" ++ a ++ "` or `" ++ b ++ "`"
  | many => "expected one of " ++ ", ".intercalate (many.map fun a => "`" ++ a ++ "`")

def Mismatch.message : Mismatch → String
  | .wrongType found wanted => "invalid type: " ++ found.text ++ ", expected " ++ wanted.wording
  | .wrongValue found wanted => "invalid value: " ++ found.text ++ ", expected " ++ wanted.wording
  | .wrongLength n wanted => "invalid length " ++ numeral n ++ ", expected " ++ wanted.text
  | .missingField key => "missing field `" ++ key ++ "`"
  | .duplicateField key => "duplicate field `" ++ key ++ "`"
  | .unknownVariant found known =>
    "unknown variant `" ++ found ++ "`, " ++ alternatives known
  | .badInstant cause => cause.message

end RegistryConsole.Json
