import RegistryConsole.Decimal.Plain
/-!
# Counters

How many requests were answered and how long they took, by method, pattern and status, and how the
guards of the routes decided. The metrics page tells it in the text format of Prometheus: families
in the order of their names, each sorted by the values of its labels, and none without entries.
-/
namespace RegistryConsole

structure RequestLabel where
  method : String
  /-- The pattern that the path matched. -/
  path : String
  status : Nat
  deriving DecidableEq, Repr

structure OutcomeLabel where
  route : String
  outcome : String
  deriving DecidableEq, Repr

structure Counters where
  requests : List (RequestLabel × Nat) := []
  /-- All that was observed, in nanoseconds. -/
  durations : List (RequestLabel × List Nat) := []
  outcomes : List (OutcomeLabel × Nat) := []
  deriving DecidableEq, Repr

namespace Counters

/-- Changes the entry of a label, which is there from then on. -/
def alter [DecidableEq κ] (label : κ) (f : Option α → α) : List (κ × α) → List (κ × α)
  | [] => [(label, f none)]
  | (l, x) :: rest =>
    if l = label then (l, f (some x)) :: rest else (l, x) :: alter label f rest

def raise [DecidableEq κ] (label : κ) : List (κ × Nat) → List (κ × Nat) :=
  alter label fun n => n.getD 0 + 1

def observe [DecidableEq κ] (label : κ) (elapsed : Nat) :
    List (κ × List Nat) → List (κ × List Nat) :=
  alter label fun observed => observed.getD [] ++ [elapsed]

def count [DecidableEq κ] (label : κ) (counters : List (κ × Nat)) : Nat :=
  (counters.lookup label).getD 0

def countRequest (c : Counters) (label : RequestLabel) (elapsed : Nat) : Counters :=
  { c with
    requests := raise label c.requests
    durations := observe label elapsed c.durations }

def countOutcome (c : Counters) (label : OutcomeLabel) : Counters :=
  { c with outcomes := raise label c.outcomes }

/-- The label of requests whose path matched no pattern. -/
def unmatched : String := "unmatched"

def requestsName : String := "http_requests_total"

def durationsName : String := "http_request_duration_seconds"

def outcomesName : String := "route_guard_outcomes_total"

/-- Labels with their names, in the order of these. -/
abbrev Labels := List (String × String)

def requestLabels (l : RequestLabel) : Labels :=
  [("method", l.method), ("path", l.path), ("status", String.ofList (Text.decimal l.status))]

def outcomeLabels (l : OutcomeLabel) : Labels :=
  [("outcome", l.outcome), ("route", l.route)]

def escapeChar (c : Char) : List Char :=
  if c = '\\' then ['\\', '\\'] else if c = '"' then ['\\', '"']
  else if c = '\n' then ['\\', 'n'] else [c]

def labelled (name : String) (labels : Labels) : String :=
  let pair : String × String → String := fun (key, value) =>
    key ++ "=\"" ++ String.ofList (value.toList.flatMap escapeChar) ++ "\""
  name ++ "\x7b" ++ ",".intercalate (labels.map pair) ++ "\x7d"

/-- The counters with their names and labels, as they were first raised. -/
def lines (c : Counters) : List (String × Nat) :=
  (c.requests.map fun (l, n) => (labelled requestsName (requestLabels l), n)) ++
    (c.outcomes.map fun (l, n) => (labelled outcomesName (outcomeLabels l), n))

private def number (x : Float) : String :=
  String.ofList (Decimal.plain x)

private def sample (name : String) (labels : Labels) (x : Float) : String :=
  labelled name labels ++ " " ++ number x ++ "\n"

/-- A family of the page, from the labels of its entries and the lines of these. -/
def family (name help kind : String) (entries : List (Labels × String)) : String :=
  let notAfter (a b : Labels × String) : Bool := !decide (b.1.map Prod.snd < a.1.map Prod.snd)
  if entries.isEmpty then ""
  else
    "# HELP " ++ name ++ " " ++ help ++ "\n# TYPE " ++ name ++ " " ++ kind ++ "\n" ++
      String.join ((entries.mergeSort notAfter).map Prod.snd)

def counterFamily (name help : String) (labelsOf : κ → Labels) (counters : List (κ × Nat)) :
    String :=
  family name help "counter" <| counters.map fun (l, n) =>
    (labelsOf l, sample name (labelsOf l) n.toFloat)

def seconds (nanoseconds : Nat) : Float :=
  (nanoseconds / 1000000000).toFloat + (nanoseconds % 1000000000).toFloat / 1e9

/-- Upper bounds of the buckets of a histogram, in seconds. -/
def bounds : List Float :=
  [0.005, 0.01, 0.025, 0.05, 0.1, 0.25, 0.5, 1, 2.5, 5, 10]

/-- The lines of a histogram. A bucket counts all that was observed up to its bound, and the last
one all there is. -/
def histogram (name : String) (labels : Labels) (observed : List Nat) : String :=
  let durations := observed.map seconds
  let bucket (bound : String) (n : Nat) :=
    sample (name ++ "_bucket") (labels ++ [("le", bound)]) n.toFloat
  String.join (bounds.map fun bound =>
      bucket (number bound) (durations.countP fun duration => duration ≤ bound)) ++
    bucket "+Inf" durations.length ++
    sample (name ++ "_sum") labels (durations.foldl (fun sum duration => sum + duration) 0) ++
    sample (name ++ "_count") labels durations.length.toFloat

def text (c : Counters) : String :=
  family durationsName "HTTP request duration in seconds" "histogram"
      (c.durations.map fun (l, observed) =>
        (requestLabels l, histogram durationsName (requestLabels l) observed)) ++
    counterFamily requestsName "Total number of HTTP requests" requestLabels c.requests ++
    counterFamily outcomesName "Route guard evaluations by outcome" outcomeLabels c.outcomes

end Counters

end RegistryConsole
