import RegistryConsole.Http.Header
import RegistryConsole.Trace.Parent
/-!
# Trace contexts

What a request to the registry carries of the active trace, and what is taken over from a request
of a browser. A vendor list is checked when it is built; a context without valid ids is not sent.
-/
namespace RegistryConsole.Trace

open Text

inductive StateError where
  | key (key : String)
  | value (value : String)
  deriving DecidableEq, Repr

def StateError.message : StateError → String
  | .key text =>
    text ++ " is not a valid key in TraceState, see https://www.w3.org/TR/trace-context/#key " ++
      "for more details"
  | .value text =>
    text ++ " is not a valid value in TraceState, see https://www.w3.org/TR/trace-context/#value " ++
      "for more details"

abbrev VendorList := List (String × String)

/-- Most octets of a key or a value. -/
def longestEntry : Nat := 256

/-- Most octets from the at sign of a key to its end. -/
def longestSystem : Nat := 14

private def isStart (c : Char) : Bool :=
  c.isLower || c.isDigit

private def isKeyChar (c : Char) : Bool :=
  isStart c || c = '_' || c = '-' || c = '*' || c = '/' || c = '@'

/-- Checks a key from one place on; `afterAt` tells how far behind the at sign the place is. -/
private def keyFrom (afterAt : Option Nat) : Bool → List Char → Bool
  | _, [] => true
  | first, c :: rest =>
    isKeyChar c && (!first || isStart c) &&
      if c = '@' then
        afterAt.isNone && rest.length < longestSystem && keyFrom (some 0) false rest
      else
        match afterAt with
        | some 0 => isStart c && keyFrom (some 1) false rest
        | other => keyFrom other false rest

def isKey (key : String) : Bool :=
  key.utf8ByteSize ≤ longestEntry && keyFrom none true key.toList

def isEntryValue (value : String) : Bool :=
  value.utf8ByteSize ≤ longestEntry && !(value.toList.contains ',' || value.toList.contains '=')

def checkVendors : VendorList → Except StateError VendorList
  | [] => .ok []
  | (key, value) :: rest =>
    if !isKey key then .error (.key key)
    else if !isEntryValue value then .error (.value value)
    else (checkVendors rest).map ((key, value) :: ·)

def vendorText (vendors : VendorList) : String :=
  ",".intercalate (vendors.map fun (key, value) => key ++ "=" ++ value)

/-- A span as the registry is told of it. -/
structure SpanContext where
  traceId : Nat
  spanId : Nat
  flags : Nat
  vendors : VendorList

/-- The trace parent of a span whose ids are not zero. -/
def Parent.ofSpan? (span : SpanContext) : Option Parent :=
  if span.traceId = 0 || span.spanId = 0 then none
  else some ⟨hexPadded 32 span.traceId, hexPadded 16 span.spanId, span.flags⟩

/-- Puts the context of a span on a request. -/
def inject (span : SpanContext) (headers : Http.Headers) : Http.Headers :=
  match Parent.ofSpan? span with
  | none => headers
  | some parent =>
    let headers := headers.set parentHeader parent.text
    let vendors := vendorText span.vendors
    if vendors.isEmpty || !Http.isValue vendors then headers else headers.set stateHeader vendors

/-- The trace parent of a request in its normal form; one that does not parse counts as none. -/
def extract? (headers : Http.Headers) : Option String :=
  ((headers.get? parentHeader).bind Http.textValue?).bind fun value =>
    (Parent.ofString? value).map Parent.text

end RegistryConsole.Trace
