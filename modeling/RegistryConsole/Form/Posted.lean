import RegistryConsole.Json.Decoder
import RegistryConsole.Text.Percent
/-!
# Posted forms

The body of a form as a browser writes it: names with values between ampersands, a plus sign for
a space, everything else percent-encoded. A field that is posted twice is refused; fields that
the form does not have are passed over.
-/
namespace RegistryConsole.Form

open Json Text

def splitOctets (sep : UInt8) : List UInt8 → List (List UInt8)
  | [] => [[]]
  | b :: rest =>
    if b = sep then [] :: splitOctets sep rest
    else
      match splitOctets sep rest with
      | [] => [[b]]
      | part :: parts => (b :: part) :: parts

private def ampersand : UInt8 := 0x26

private def equalsSign : UInt8 := 0x3D

private def plusToSpace (b : UInt8) : UInt8 :=
  if b = 0x2B then 0x20 else b

/-- The text of a written name or value. -/
def textOf (octets : List UInt8) : String :=
  Utf8.decodeLossy (Percent.decodeOctets (octets.map plusToSpace))

/-- The name before the first equals sign and the value after it. -/
def pairOf (part : List UInt8) : String × String :=
  (textOf (part.takeWhile (· ≠ equalsSign)), textOf ((part.dropWhile (· ≠ equalsSign)).drop 1))

def pairs (body : List UInt8) : List (String × String) :=
  ((splitOctets ampersand body).filter (!·.isEmpty)).map pairOf

/-- Reads pairs in turn into the fields of their names; `seen` holds the names read before. -/
def readPairsInto (fields : List (RecordField ρ)) :
    List String → List (String × String) → ρ → Except Mismatch ρ
  | _, [], r => .ok r
  | seen, (name, value) :: rest, r =>
    match fields.find? (·.key = name) with
    | none => readPairsInto fields seen rest r
    | some f =>
      if seen.contains name then .error (.duplicateField name)
      else do
        let r ← f.read (.string value) r
        readPairsInto fields (name :: seen) rest r

/-- The form of a body, on top of its defaults. -/
def ofBody (fields : List (RecordField ρ)) (defaults : ρ) (body : List UInt8) : Except Mismatch ρ :=
  readPairsInto fields [] (pairs body) defaults

end RegistryConsole.Form
