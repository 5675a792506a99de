/-!
# Guards

A guard puts an ordered list of checks before a navigation. The checks run in turn, each on the
context the one before it left, until one does not pass. One that fails redirects to its own
target, or to the fallback of the guard; one that raises an error ends the evaluation with it.
-/
namespace RegistryConsole

inductive Verdict where
  | pass
  | fail
  deriving DecidableEq, Repr

def Verdict.ofBool (passed : Bool) : Verdict :=
  if passed then pass else fail

/-- A named check on contexts in `γ`, with effects in `m` and errors in `ε`. -/
structure Precondition (m : Type → Type) (γ ε : Type) where
  name : String
  check : γ → m (Except ε Verdict × γ)
  /-- Where a failure of this check redirects to instead of the fallback. -/
  target : Option String := none

/-- Where an evaluation ends that raises no error. There is no outcome for one that is still
pending: it has a result only when it has ended, so that none is left undecided holds by this
type. -/
inductive Outcome where
  | proceed
  | redirect (target : String)
  deriving DecidableEq, Repr

structure Guard (m : Type → Type) (γ ε : Type) where
  conditions : List (Precondition m γ ε)
  fallback : String

namespace Guard

def names (g : Guard m γ ε) : List String :=
  g.conditions.map (·.name)

/-- Runs checks in turn up to the first that does not pass. -/
def run [Monad m] (fallback : String) :
    List (Precondition m γ ε) → γ → m (Except ε Outcome × γ)
  | [], context => pure (.ok .proceed, context)
  | p :: rest, context => do
    match ← p.check context with
    | (.ok .pass, context) => run fallback rest context
    | (.ok .fail, context) => return (.ok (.redirect (p.target.getD fallback)), context)
    | (.error e, context) => return (.error e, context)

def evaluate [Monad m] (g : Guard m γ ε) (context : γ) : m (Except ε Outcome × γ) :=
  run g.fallback g.conditions context

end Guard

end RegistryConsole
