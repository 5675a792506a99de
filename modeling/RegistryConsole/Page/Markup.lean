/-!
# Markup

A page is a list of pieces: markup of its own, written as it is, and texts from elsewhere, written
with a character reference for each character that could end a text or a quoted attribute.
-/
namespace RegistryConsole

inductive Markup.Piece where
  /-- Markup of the page itself. -/
  | literal (source : String)
  /-- A text put into the page. -/
  | content (text : String)
  deriving DecidableEq, Repr

abbrev Markup := List Markup.Piece

namespace Markup

/-- How one character of a text is written. -/
def escapeChar (c : Char) : List Char :=
  if c = '&' then "&amp;".toList
  else if c = '<' then "&lt;".toList
  else if c = '>' then "&gt;".toList
  else if c = '"' then "&quot;".toList
  else if c = '\x27' then "&#x27;".toList
  else [c]

def escape (s : List Char) : List Char :=
  s.flatMap escapeChar

def Piece.chars : Piece → List Char
  | literal source => source.toList
  | content text => escape text.toList

def chars (m : Markup) : List Char :=
  m.flatMap Piece.chars

/-- The page as it is sent. -/
def render (m : Markup) : String :=
  String.ofList m.chars

def lit (source : String) : Markup :=
  [.literal source]

def put (text : String) : Markup :=
  [.content text]

def each (items : List α) (markup : α → Markup) : Markup :=
  items.flatMap markup

def only (condition : Bool) (markup : Markup) : Markup :=
  if condition then markup else []

end Markup

end RegistryConsole
