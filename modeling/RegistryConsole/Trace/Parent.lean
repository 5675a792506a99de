import RegistryConsole.Text.Blank
import RegistryConsole.Text.Numeral
import RegistryConsole.Text.Split
import RegistryConsole.Text.Utf8
/-!
# Trace parents

The header by which calls of one trace are joined: a version, a trace id of 32 hexadecimal digits,
a parent id of 16, and a byte of flags. Ids are written in lower case and are never all zero.
-/
namespace RegistryConsole.Trace

open Text

def parentHeader : String := "traceparent"

def stateHeader : String := "tracestate"

structure Parent where
  traceId : List Char
  parentId : List Char
  flags : Nat
  deriving DecidableEq, Repr

/-- The one version of the header that is understood. -/
def version : List Char := ['0', '0']

def isHexDigit (c : Char) : Bool :=
  (hexValue? c).isSome

/-- As many hexadecimal digits as asked for, not all of them zero. -/
def isId (width : Nat) (s : List Char) : Bool :=
  s.length = width && s.all isHexDigit && s.any (· ≠ '0')

/-- The value of a text of two octets that is a hexadecimal numeral, perhaps after a plus sign. -/
def flags? (s : List Char) : Option Nat :=
  if (Utf8.encodeChars s).length = 2 then
    match dropPlus s with
    | [] => none
    | digits => digitsValue? hexValue? 16 0 digits
  else none

namespace Parent

def ofChars? (s : List Char) : Option Parent :=
  match split '-' (trimChars s) with
  | [v, traceId, parentId, flags] =>
    if v = version && isId 32 traceId && isId 16 parentId then
      (flags? flags).map fun f => ⟨traceId.map Char.toLower, parentId.map Char.toLower, f⟩
    else none
  | _ => none

def ofString? (s : String) : Option Parent :=
  ofChars? s.toList

def chars (p : Parent) : List Char :=
  version ++ '-' :: p.traceId ++ '-' :: p.parentId ++ '-' :: hexPadded 2 p.flags

def text (p : Parent) : String :=
  String.ofList p.chars

def sampled (p : Parent) : Bool :=
  p.flags % 2 = 1

end Parent

end RegistryConsole.Trace
