import RegistryConsole.Text.Blank
import RegistryConsole.Url.Basic
/-!
# Faults of form fields

What can be wrong with the text of a field, and the checks that find it. A check yields the first
fault of a text, or nothing for a text that passes.
-/
namespace RegistryConsole.Form

open Text

/-- How many characters a text must have. -/
inductive LengthBound where
  | above (n : Nat)
  | atLeast (n : Nat)
  deriving DecidableEq, Repr

def LengthBound.admits : LengthBound → Nat → Bool
  | above n, length => n < length
  | atLeast n, length => n ≤ length

inductive Fault where
  | blank
  | tooShort (bound : LengthBound)
  | noUrl
  deriving DecidableEq, Repr

def Fault.code : Fault → String
  | blank => "required"
  | tooShort _ => "min_length"
  | noUrl => "url"

private def numeral (n : Nat) : String :=
  String.ofList (decimal n)

def Fault.message : Fault → String
  | blank => "This field is required."
  | tooShort (.above n) => "Minimum length should be greater than " ++ numeral n ++ "."
  | tooShort (.atLeast n) =>
    "Minimum length should be greater or equal than " ++ numeral n ++ "."
  | noUrl => "Not a valid URL."

def required (s : String) : Option Fault :=
  if isBlankText s then some .blank else none

def minLength (bound : LengthBound) (s : String) : Option Fault :=
  if bound.admits s.toList.length then none else some (.tooShort bound)

/-- How an address that a form accepts may begin, in small letters. -/
def urlLeads : List (List Char) :=
  ["http://".toList, "https://".toList, "ftp://".toList]

def isUrl (s : String) : Bool :=
  urlLeads.any (startsWith · (s.toList.map Char.toLower)) && (Url.ofString? s).isSome

def url (s : String) : Option Fault :=
  if isUrl s then none else some .noUrl

/-- A blank text passes. -/
def optionalUrl (s : String) : Option Fault :=
  if isBlankText s then none else url s

end RegistryConsole.Form
