import RegistryConsole.Text.Case
import RegistryConsole.Text.Numeral
import RegistryConsole.Text.PrintableTable
/-!
# Quoted texts in messages

A text between double quotes on one line, as messages about it show it. Quotes, backslashes and
the usual controls have short escapes; other characters that do not show, or that would join the
one before them, are written by their number.
-/
namespace RegistryConsole.Text

def isVisible (c : Char) : Bool :=
  if c.toNat < 0x7F then 0x20 ≤ c.toNat
  else !(inRanges invisibleRanges c || inRanges extenderRanges c)

/-- The number of a character in hexadecimal between braces. -/
def numberedEscape (c : Char) : List Char :=
  "\\u\x7b".toList ++ Nat.toDigits 16 c.toNat ++ ['\x7d']

def showChar (c : Char) : List Char :=
  if c = '"' then ['\\', '"']
  else if c = '\\' then ['\\', '\\']
  else if c = '\n' then ['\\', 'n']
  else if c = '\r' then ['\\', 'r']
  else if c = '\t' then ['\\', 't']
  else if c.toNat = 0 then ['\\', '0']
  else if isVisible c then [c]
  else numberedEscape c

def showQuoted (s : String) : String :=
  String.ofList ('"' :: s.toList.flatMap showChar ++ ['"'])

end RegistryConsole.Text
