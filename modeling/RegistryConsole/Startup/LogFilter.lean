import RegistryConsole.Json.Basic
import RegistryConsole.Text.Blank
import RegistryConsole.Text.Numeral
import RegistryConsole.Text.Split
/-!
# Log filters

Which entries of the log are written. A filter is a list of directives between commas, each a
level, a target or both; of the directives whose target an entry's target begins with, the longest
decides.
-/
namespace RegistryConsole.Startup

open Text

inductive Level where
  | error
  | warn
  | info
  | debug
  | trace
  deriving DecidableEq, Repr

def Level.name : Level → String
  | error => "ERROR"
  | warn => "WARN"
  | info => "INFO"
  | debug => "DEBUG"
  | trace => "TRACE"

/-- How much a level lets through; nothing is let through at zero. -/
def Level.rank : Level → Nat
  | error => 1
  | warn => 2
  | info => 3
  | debug => 4
  | trace => 5

structure LogEntry where
  level : Level
  target : String
  message : String
  fields : List (String × Json) := []

def LogEntry.toJson (e : LogEntry) : Json :=
  .ofMembers ([("level", .string e.level.name), ("target", .string e.target),
    ("message", .string e.message)] ++ e.fields)

/-- Lets entries of a target through up to a rank. -/
structure Directive where
  /-- Entries of every target, if there is none. -/
  target : Option (List Char)
  rank : Nat
  /-- Only for entries within certain spans, of which the start of the console has none. -/
  inSpans : Bool := false
  deriving DecidableEq, Repr

namespace Directive

def rankNames : List (List Char) :=
  ["off".toList, "error".toList, "warn".toList, "info".toList, "debug".toList, "trace".toList]

def mostRank : Nat := 5

/-- The rank that a name or a number stands for. -/
def rank? (s : List Char) : Option Nat :=
  match boundedNatural? (mostRank + 1) s with
  | some n => some n
  | none => rankNames.findIdx? (· = s.map Char.toLower)

inductive Fault where
  | malformed
  | noLevel
  deriving DecidableEq, Repr

def Fault.message : Fault → String
  | malformed => "invalid filter directive"
  | noLevel => "error parsing level filter: expected one of \"off\", \"error\", \"warn\", " ++
    "\"info\", \"debug\", \"trace\", or a number 0-5"

private def mayBegin (c : Char) : Bool :=
  c.isAlphanum || 0x80 ≤ c.toNat || c = '-' || c = ':' || c = '_'

/-- The rank behind an equals sign; everything is let through where there is none. -/
def rankBehind (s : List Char) : Except Fault Nat :=
  if s.isEmpty then .ok mostRank
  else
    match rank? s with
    | some rank => .ok rank
    | none => .error .noLevel

/-- The directive for certain spans, from what follows their opening bracket. -/
def ofSpans (target : Option (List Char)) (s : List Char) : Except Fault Directive :=
  match cut ']' s with
  | (_, none) => .error .malformed
  | (_, some []) => .ok { target, rank := mostRank, inSpans := true }
  | (_, some ('=' :: level)) =>
    (rankBehind level).map fun rank => { target, rank, inSpans := true }
  | _ => .error .malformed

private def endsTarget (c : Char) : Bool :=
  c = '=' || c = '['

/-- The directive of a text. Blanks around it belong to it: a level is none with a blank before or
behind it, and a target with one is that of no entry. -/
def ofChars (s : List Char) : Except Fault Directive :=
  match trimChars s with
  | [] => .error .malformed
  | '[' :: rest => ofSpans none rest
  | c :: _ =>
    if !mayBegin c then .error .malformed
    else
      let target := s.takeWhile (!endsTarget ·)
      match s.dropWhile (!endsTarget ·) with
      | '=' :: level =>
        if s.head? = some c then (rankBehind level).map fun rank => { target := some target, rank }
        else .error .noLevel
      | '[' :: rest => ofSpans (some target) rest
      | _ =>
        match rank? target with
        | some rank => .ok { target := none, rank }
        | none => .ok { target := some target, rank := mostRank }

/-- Whether a directive speaks of a target. -/
def concerns (d : Directive) (target : List Char) : Bool :=
  !d.inSpans && d.target.all (startsWith · target)

/-- How far a directive narrows targets down. -/
def weight (d : Directive) : Nat :=
  (d.target.map (·.length + 1)).getD 0

end Directive

abbrev LogFilter := List Directive

namespace LogFilter

def parts (s : String) : List (List Char) :=
  (split ',' s.toList).filter (!·.isEmpty)

/-- The filter of a text in which every directive can be read; an empty one lets nothing
through. -/
def strict? (s : String) : Option LogFilter :=
  ((parts s).mapM fun part => (Directive.ofChars part).toOption).map fun directives =>
    if directives.isEmpty then [{ target := none, rank := 0 }] else directives

/-- The filter of those directives that can be read, and errors only if there are none. -/
def lenient (s : String) : LogFilter :=
  let directives := (parts s).filterMap fun part => (Directive.ofChars part).toOption
  if directives.isEmpty then [{ target := none, rank := Level.error.rank }] else directives

/-- What is said of the directives that cannot be read. -/
def complaints (s : String) : List String :=
  (parts s).filterMap fun part =>
    match Directive.ofChars part with
    | .ok _ => none
    | .error fault => some ("ignoring `" ++ String.ofList part ++ "`: " ++ fault.message)

/-- The directive that decides on a target: of two of one weight the later. -/
def deciding? (target : List Char) : LogFilter → Option Directive
  | [] => none
  | d :: rest =>
    match deciding? target rest with
    | none => if d.concerns target then some d else none
    | some best => if d.concerns target && best.weight < d.weight then some d else some best

def admits (f : LogFilter) (e : LogEntry) : Bool :=
  (deciding? e.target.toList f).any fun d => e.level.rank ≤ d.rank

end LogFilter

end RegistryConsole.Startup
