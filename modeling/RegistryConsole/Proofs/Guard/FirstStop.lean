import Mathlib
import RegistryConsole.Proofs.Registry.Dialogue
import RegistryConsole.Route.Table
/-!
# Evaluation up to the first stop

What an evaluation does is read off a log. Each check is given a context with a log beside it and
writes down that it ran, on what, with what verdict and what it left (`Precondition.logged`), which
changes nothing else. The log then shows an evaluation up to the first check that does not pass
(`FirstStop`), whatever effects the checks have. A navigation proceeds if all checks pass, also if
there are none, and otherwise the last check that ran decides. Two lists of checks in a row are the
first and, where it proceeds, the second.

What holds of the results of a computation in any monad is said with `SatisfiesM`. Mathlib is
imported as a whole for it: none of its modules has that notion by itself.
-/
namespace RegistryConsole

open Registry

variable {m : Type → Type} {γ ε : Type}

namespace Guard

/-- A check that has run. -/
structure Step (m : Type → Type) (γ ε : Type) where
  condition : Precondition m γ ε
  /-- The context the check was given. -/
  before : γ
  verdict : Except ε Verdict
  /-- The context the check left. -/
  after : γ

/-- How an evaluation ends whose last check this is. -/
def Step.ending (fallback : String) (step : Step m γ ε) : Except ε Outcome :=
  match step.verdict with
  | .ok .pass => .ok .proceed
  | .ok .fail => .ok (.redirect (step.condition.target.getD fallback))
  | .error e => .error e

/-- The steps are an evaluation of conditions up to and including the first that does not pass. -/
structure FirstStop (fallback : String) (conditions : List (Precondition m γ ε)) (start : γ)
    (steps : List (Step m γ ε)) (result : Except ε Outcome × γ) : Prop where
  /-- The checks that ran are the first of the list, each once and in its order. -/
  inOrder : steps.map Step.condition <+: conditions
  /-- The first ran on the context of the start, every other on what the one before it left, and
  the end is what the last left. -/
  threaded : start :: steps.map Step.after = steps.map Step.before ++ [result.2]
  passed : ∀ step ∈ steps.dropLast, step.verdict = .ok .pass
  /-- Checks are left out only behind one that did not pass. -/
  stopped : steps.map Step.condition = conditions ∨
    ∃ step ∈ steps.getLast?, step.verdict ≠ .ok .pass
  ending : result.1 = (steps.getLast?.map (Step.ending fallback)).getD (.ok .proceed)

namespace FirstStop

variable {fallback : String} {p : Precondition m γ ε} {rest : List (Precondition m γ ε)}
  {context after : γ} {steps : List (Step m γ ε)} {result : Except ε Outcome × γ}

theorem empty : FirstStop fallback ([] : List (Precondition m γ ε)) context []
    (.ok .proceed, context) where
  inOrder := List.nil_prefix
  threaded := rfl
  passed := by simp
  stopped := .inl rfl
  ending := rfl

theorem stop {verdict : Except ε Verdict} (h : verdict ≠ .ok .pass) :
    FirstStop fallback (p :: rest) context [⟨p, context, verdict, after⟩]
      (Step.ending fallback ⟨p, context, verdict, after⟩, after) where
  inOrder := ⟨rest, rfl⟩
  threaded := rfl
  passed := by simp
  stopped := .inr ⟨_, rfl, h⟩
  ending := rfl

theorem pass (h : FirstStop fallback rest after steps result) :
    FirstStop fallback (p :: rest) context (⟨p, context, .ok .pass, after⟩ :: steps) result where
  inOrder := List.cons_prefix_cons.mpr ⟨rfl, h.inOrder⟩
  threaded := congrArg (context :: ·) h.threaded
  passed := by
    cases steps with
    | nil => simp
    | cons first steps =>
        rw [List.dropLast_cons_cons, List.forall_mem_cons]
        exact ⟨rfl, h.passed⟩
  stopped := by
    obtain hall | ⟨last, hlast, hverdict⟩ := h.stopped
    · exact .inl (congrArg (p :: ·) hall)
    · refine .inr ⟨last, ?_, hverdict⟩
      rw [List.getLast?_cons, Option.mem_def.mp hlast]
      rfl
  ending := by
    rw [h.ending, List.getLast?_cons]
    cases steps.getLast? with
    | none => rfl
    | some last => rfl

end FirstStop

end Guard

open Guard

/-- The check with a log beside its context, in which it writes down what it did. -/
def Precondition.logged [Monad m] (p : Precondition m γ ε) :
    Precondition m (γ × List (Step m γ ε)) ε where
  name := p.name
  target := p.target
  check := fun (context, log) => do
    let (verdict, after) ← p.check context
    return (verdict, after, log ++ [⟨p, context, verdict, after⟩])

namespace Guard

/-- The guard of the same checks, each with a log beside its context. -/
def logged [Monad m] (g : Guard m γ ε) : Guard m (γ × List (Step m γ ε)) ε where
  conditions := g.conditions.map Precondition.logged
  fallback := g.fallback

/-- What an evaluation came to, without its log. -/
def unlogged (r : Except ε Outcome × γ × List (Step m γ ε)) : Except ε Outcome × γ :=
  (r.1, r.2.1)

/-- Goes on with more checks where an evaluation proceeds, and only there. -/
def andThen [Monad m] (more : γ → m (Except ε Outcome × γ)) :
    Except ε Outcome × γ → m (Except ε Outcome × γ)
  | (.ok .proceed, context) => more context
  | stopped => pure stopped

variable [Monad m] [LawfulMonad m] (fallback : String)

theorem run_logged_cons (p : Precondition m γ ε) (rest : List (Precondition m γ ε)) (context : γ)
    (log : List (Step m γ ε)) :
    run fallback ((p :: rest).map Precondition.logged) (context, log) =
      p.check context >>= fun (verdict, after) =>
        let log := log ++ [⟨p, context, verdict, after⟩]
        match verdict with
        | .ok .pass => run fallback (rest.map Precondition.logged) (after, log)
        | _ => pure (Step.ending fallback ⟨p, context, verdict, after⟩, after, log) := by
  simp only [List.map_cons, run, Precondition.logged, bind_assoc, pure_bind]
  congr 1
  funext ⟨verdict, after⟩
  rcases verdict with e | _ | _ <;> rfl

/-- The log does not change what an evaluation comes to. -/
theorem unlogged_run (conditions : List (Precondition m γ ε)) (context : γ)
    (log : List (Step m γ ε)) :
    unlogged <$> run fallback (conditions.map Precondition.logged) (context, log) =
      run fallback conditions context := by
  induction conditions generalizing context log with
  | nil => simp only [List.map_nil, run, map_pure, unlogged]
  | cons p rest ih =>
      rw [run_logged_cons, run, map_bind]
      congr 1
      funext ⟨verdict, after⟩
      rcases verdict with e | _ | _
      · exact map_pure _ _
      · exact ih after _
      · exact map_pure _ _

/-- What is added to the log is an evaluation up to the first stop. -/
theorem run_firstStop (conditions : List (Precondition m γ ε)) (context : γ)
    (log : List (Step m γ ε)) :
    SatisfiesM (fun r => ∃ steps, r.2.2 = log ++ steps ∧
        FirstStop fallback conditions context steps (unlogged r))
      (run fallback (conditions.map Precondition.logged) (context, log)) := by
  induction conditions generalizing context log with
  | nil => exact .pure ⟨[], (List.append_nil log).symm, .empty⟩
  | cons p rest ih =>
      rw [run_logged_cons]
      refine (SatisfiesM.trivial (x := p.check context)).bind ?_
      rintro ⟨verdict, after⟩ -
      rcases verdict with e | _ | _
      · exact .pure ⟨_, rfl, .stop (by simp)⟩
      · refine (ih after _).imp ?_
        rintro r ⟨steps, hlog, hsteps⟩
        exact ⟨_ :: steps, by rw [hlog, List.append_assoc]; rfl, hsteps.pass⟩
      · exact .pure ⟨_, rfl, .stop (by simp)⟩

theorem run_append (conditions later : List (Precondition m γ ε)) (context : γ) :
    run fallback (conditions ++ later) context =
      run fallback conditions context >>= andThen (run fallback later) := by
  induction conditions generalizing context with
  | nil => simp only [List.nil_append, run, pure_bind, andThen]
  | cons p rest ih =>
      rw [List.cons_append, run, run, bind_assoc]
      congr 1
      funext ⟨verdict, after⟩
      rcases verdict with e | _ | _
      · simp only [pure_bind, andThen]
      · exact ih after
      · simp only [pure_bind, andThen]

/-- A guard runs its checks up to and including the first that does not pass, each once, in their
order and on the context the one before left, and ends as that one decides. The checks of two lists
are evaluated as those of the first and, only if it proceeds, those of the second on what it left. -/
theorem evaluate_firstStop (g : Guard m γ ε) (later : List (Precondition m γ ε)) (context : γ) :
    SatisfiesM (fun r => FirstStop g.fallback g.conditions context r.2.2 (unlogged r))
        (g.logged.evaluate (context, [])) ∧
      unlogged <$> g.logged.evaluate (context, []) = g.evaluate context ∧
      evaluate { g with conditions := g.conditions ++ later } context =
        g.evaluate context >>= andThen (evaluate { g with conditions := later }) := by
  refine ⟨?_, unlogged_run g.fallback g.conditions context [], run_append _ _ _ _⟩
  refine (run_firstStop g.fallback g.conditions context []).imp ?_
  rintro r ⟨steps, hlog, hsteps⟩
  rw [hlog]
  exact hsteps

/-- The navigation of a browser nobody has signed in with. -/
def signedOut : Navigation :=
  { path := "/", clients := { registryUrl := "http://registry.test" }, storage := {}
    cache := { path := "/internal/runtime.json", defaults := {} }
    now := ⟨1700000000, 0⟩, ttl := .ofSeconds 60 }

/-- The guard of the dashboard: what every route runs first, and then its own two conditions, of
which only the first runs for a browser nobody has signed in with. -/
theorem evaluate_firstStop_home :
    LawfulMonad Dialogue ∧
    FirstStop Route.loginPath (Route.signedIn.map Condition.precondition) signedOut
      [⟨(Condition.isAuthenticated true).precondition, signedOut, .ok .fail, signedOut⟩]
      (.ok (.redirect Route.loginPath), signedOut) ∧
    (ofConditions Route.signedIn Route.loginPath).evaluate signedOut =
      .done (.ok (.redirect Route.loginPath), signedOut) ∧
    (Route.of .home).guard.evaluate signedOut =
      (ofConditions Condition.base Route.loginPath).evaluate signedOut >>=
        andThen (ofConditions Route.signedIn Route.loginPath).evaluate := by
  obtain ⟨⟨steps, hsteps⟩, hunlogged, -⟩ := evaluate_firstStop
    (ofConditions Route.signedIn Route.loginPath) [] signedOut
  obtain ⟨-, -, happend⟩ := evaluate_firstStop (ofConditions Condition.base Route.loginPath)
    (Route.signedIn.map Condition.precondition) signedOut
  refine ⟨inferInstance, ?_, hunlogged.symm, happend⟩
  cases steps with
  | ask request next => cases hsteps
  | done steps =>
      have hlog := Dialogue.done.inj hsteps
      have hstop := steps.2
      rw [hlog] at hstop
      exact hstop

end Guard

end RegistryConsole
