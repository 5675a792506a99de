import RegistryConsole.Proofs.Guard.Navigation
import RegistryConsole.Route.Table
/-!
# Evaluating the guards of routes

Every guard prepares its navigation and then runs the conditions of its route. Only the log-out asks
the registry anything more; all other conditions read the session and decide on it.
-/
namespace RegistryConsole

open Registry Dialogue

variable {n : Navigation} (fallback : String)

theorem Guard.run_precondition (c : Condition)
    (rest : List (Precondition Dialogue Navigation ConsoleError)) (n : Navigation) :
    Guard.run fallback (c.precondition :: rest) n = (c.check n).bind fun r =>
      match r with
      | (.ok .pass, n) => Guard.run fallback rest n
      | (.ok .fail, n) => .done (.ok (.redirect (c.target.getD fallback)), n)
      | (.error e, n) => .done (.error e, n) := by
  rw [Guard.run, bind_eq_bind]
  congr 1
  funext r
  obtain ⟨result, n⟩ := r
  cases result with
  | error e => rfl
  | ok verdict => cases verdict <;> rfl

theorem Route.evaluate_make (name : String) (own : List Condition) (n : Navigation) :
    (Route.make name own fallback).guard.evaluate n = n.prepare.bind fun r =>
      match r with
      | (.ok (), n) => Guard.run fallback (own.map Condition.precondition) n
      | (.error e, n) => .done (.error (Condition.refreshSession.fault e), n) := by
  change Guard.run fallback (Condition.loadRuntime.precondition ::
    Condition.refreshSession.precondition :: own.map Condition.precondition) n = _
  rw [Guard.run_precondition, Navigation.prepare, bind_assoc, Condition.check, map_bind]
  congr 1
  funext n
  simp only
  rw [Guard.run_precondition, Condition.check, map_bind]
  congr 1
  funext r
  obtain ⟨result, n⟩ := r
  cases result <;> rfl

theorem Route.evaluate_make_loadRuntime (name : String) (own : List Condition) (n : Navigation) :
    (Route.make name own fallback).guard.evaluate n = n.loadRuntime.bind
      (Guard.run fallback ((.refreshSession :: own).map Condition.precondition)) := by
  change Guard.run fallback (Condition.loadRuntime.precondition ::
    (.refreshSession :: own).map Condition.precondition) n = _
  rw [Guard.run_precondition, Condition.check, map_bind]

theorem Route.evaluate_of_quiet {own : List Condition} {fallback : String}
    {decide : Navigation → Except ConsoleError Outcome}
    (hquiet : ∀ n, Guard.run fallback (own.map Condition.precondition) n = .done (decide n, n))
    (name : String) (n : Navigation) :
    (Route.make name own fallback).guard.evaluate n = n.prepare.map fun r =>
      ((r.1.mapError Condition.refreshSession.fault).bind fun _ => decide r.2, r.2) := by
  rw [evaluate_make, map]
  congr 1
  funext r
  obtain ⟨result, n⟩ := r
  cases result with
  | error e => rfl
  | ok done => exact hquiet n

/-- What the guard of the pages that show data of the registry decides on a session. -/
def Navigation.admission (n : Navigation) : Except ConsoleError Outcome :=
  match n.readSession with
  | .error e => .error ((Condition.isAuthenticated true).fault e)
  | .ok none => .ok (.redirect fallback)
  | .ok (some session) =>
    .ok (if n.runtime.isAuthorized session.userName then .proceed
      else .redirect Route.forbiddenPath)

theorem Guard.run_signedIn (n : Navigation) :
    Guard.run fallback (Route.signedIn.map Condition.precondition) n =
      .done (n.admission fallback, n) := by
  rw [Route.signedIn, List.map_cons, Guard.run_precondition, Condition.check, pure_eq_done,
    done_bind, Navigation.admission]
  cases hread : n.readSession with
  | error e => rfl
  | ok found =>
      cases found with
      | none => rfl
      | some session =>
          simp only [Except.mapError, Except.map, Condition.verdict, Option.isSome_some,
            BEq.rfl, Verdict.ofBool, if_true]
          rw [List.map_cons, Guard.run_precondition, Condition.check, pure_eq_done, done_bind,
            hread]
          simp only [Except.mapError, Except.map, Condition.authorization]
          by_cases hauth : n.runtime.isAuthorized session.userName = true
          · simp only [hauth, Verdict.ofBool, if_true]
            rfl
          · simp only [hauth, Verdict.ofBool, Bool.false_eq_true, if_false]
            rfl

theorem Guard.run_isAuthenticated (expected : Bool) (n : Navigation) :
    Guard.run fallback ([.isAuthenticated expected].map Condition.precondition) n =
      .done ((n.readSession.mapError (Condition.isAuthenticated expected).fault).map fun found =>
        if found.isSome = expected then .proceed else .redirect fallback, n) := by
  rw [List.map_cons, Guard.run_precondition, Condition.check, pure_eq_done, done_bind]
  cases n.readSession with
  | error e => rfl
  | ok found =>
      simp only [Except.mapError, Except.map, Condition.verdict]
      by_cases hfound : found.isSome = expected
      · simp only [hfound, BEq.rfl, Verdict.ofBool, if_true]
        rfl
      · simp only [hfound, beq_false_of_ne hfound, Verdict.ofBool, Bool.false_eq_true, if_false]
        rfl

theorem Guard.run_signedOut {n : Navigation} (h : n.readSession = .ok none)
    (rest : List Condition) :
    Guard.run fallback ((.isAuthenticated true :: rest).map Condition.precondition) n =
      .done (.ok (.redirect fallback), n) := by
  rw [List.map_cons, Guard.run_precondition, Condition.check, pure_eq_done, done_bind, h]
  rfl

theorem Guard.run_logOut (n : Navigation) :
    Guard.run fallback ([.isAuthenticated true, .logOut].map Condition.precondition) n =
      match n.readSession with
      | .error e => .done (.error ((Condition.isAuthenticated true).fault e), n)
      | .ok none => .done (.ok (.redirect fallback), n)
      | .ok (some _) => n.clearSession.map fun r =>
          ((r.1.mapError Condition.logOut.fault).map fun _ => .redirect fallback, r.2) := by
  rw [List.map_cons, Guard.run_precondition, Condition.check, pure_eq_done, done_bind]
  cases n.readSession with
  | error e => rfl
  | ok found =>
      cases found with
      | none => rfl
      | some session =>
          simp only [Except.mapError, Except.map, Condition.verdict, Option.isSome_some,
            BEq.rfl, Verdict.ofBool, if_true]
          rw [List.map_cons, Guard.run_precondition, Condition.check, map_bind, map]
          congr 1
          funext r
          obtain ⟨result, n⟩ := r
          cases result <;> rfl

end RegistryConsole
