import RegistryConsole.Registry.Dialogue
/-!
# Laws of dialogues

Dialogues are a lawful monad, and playing one after another against a registry plays the second
from the state the first left behind. `Meets` speaks of every branch of a dialogue at once, so what
it says holds against every registry (`Meets.result`, `Meets.calls`).
-/
namespace RegistryConsole.Registry.Dialogue

variable {σ α β γ : Type}

@[simp] theorem pure_eq_done (a : α) : (pure a : Dialogue α) = .done a := rfl

@[simp] theorem bind_eq_bind (d : Dialogue α) (f : α → Dialogue β) : d >>= f = d.bind f := rfl

@[simp] theorem done_bind (a : α) (f : α → Dialogue β) : (done a).bind f = f a := rfl

@[simp] theorem bind_done (d : Dialogue α) : d.bind done = d := by
  induction d with
  | done a => rfl
  | ask request next ih =>
      rw [bind]
      congr 1
      funext answer
      exact ih answer

theorem bind_assoc (d : Dialogue α) (f : α → Dialogue β) (g : β → Dialogue γ) :
    (d.bind f).bind g = d.bind fun a => (f a).bind g := by
  induction d with
  | done a => rfl
  | ask request next ih =>
      simp only [bind]
      congr 1
      funext answer
      exact ih answer

theorem map_bind (d : Dialogue α) (f : α → β) (g : β → Dialogue γ) :
    (d.map f).bind g = d.bind fun a => g (f a) := by
  rw [map, bind_assoc]
  rfl

instance : LawfulMonad Dialogue :=
  LawfulMonad.mk' Dialogue bind_done (fun _ _ => rfl) bind_assoc

variable (registry : Responder σ)

/-- What a play ends with. -/
def result (d : Dialogue α) (s : σ) : α := (d.run registry s).1

/-- What the registry is asked in a play, in order. -/
def calls (d : Dialogue α) (s : σ) : List Request := (d.run registry s).2.1

/-- The registry's state after a play. -/
def endState (d : Dialogue α) (s : σ) : σ := (d.run registry s).2.2

theorem run_bind (d : Dialogue α) (f : α → Dialogue β) (s : σ) :
    (d.bind f).run registry s =
      (result registry (f (result registry d s)) (endState registry d s),
        calls registry d s ++ calls registry (f (result registry d s)) (endState registry d s),
        endState registry (f (result registry d s)) (endState registry d s)) := by
  induction d generalizing s with
  | done a => rfl
  | ask request next ih =>
      have h := ih (registry s request).1 (registry s request).2
      simp only [bind, run, h]
      rfl

@[simp] theorem result_done (a : α) (s : σ) : result registry (done a) s = a := rfl

@[simp] theorem calls_done (a : α) (s : σ) : calls registry (done a) s = [] := rfl

@[simp] theorem endState_done (a : α) (s : σ) : endState registry (done a) s = s := rfl

@[simp] theorem result_ask (r : Request) (next : Answer → Dialogue α) (s : σ) :
    result registry (ask r next) s =
      result registry (next (registry s r).1) (registry s r).2 := rfl

@[simp] theorem calls_ask (r : Request) (next : Answer → Dialogue α) (s : σ) :
    calls registry (ask r next) s =
      r :: calls registry (next (registry s r).1) (registry s r).2 := rfl

@[simp] theorem endState_ask (r : Request) (next : Answer → Dialogue α) (s : σ) :
    endState registry (ask r next) s =
      endState registry (next (registry s r).1) (registry s r).2 := rfl

@[simp] theorem result_bind (d : Dialogue α) (f : α → Dialogue β) (s : σ) :
    result registry (d.bind f) s =
      result registry (f (result registry d s)) (endState registry d s) := by
  rw [result, run_bind]

@[simp] theorem calls_bind (d : Dialogue α) (f : α → Dialogue β) (s : σ) :
    calls registry (d.bind f) s =
      calls registry d s ++ calls registry (f (result registry d s)) (endState registry d s) := by
  rw [calls, run_bind]

@[simp] theorem endState_bind (d : Dialogue α) (f : α → Dialogue β) (s : σ) :
    endState registry (d.bind f) s =
      endState registry (f (result registry d s)) (endState registry d s) := by
  rw [endState, run_bind]

@[simp] theorem result_map (d : Dialogue α) (f : α → β) (s : σ) :
    result registry (d.map f) s = f (result registry d s) := by
  rw [map, result_bind, result_done]

@[simp] theorem calls_map (d : Dialogue α) (f : α → β) (s : σ) :
    calls registry (d.map f) s = calls registry d s := by
  rw [map, calls_bind, calls_done, List.append_nil]

@[simp] theorem endState_map (d : Dialogue α) (f : α → β) (s : σ) :
    endState registry (d.map f) s = endState registry d s := by
  rw [map, endState_bind, endState_done]

/-- Every request of a dialogue satisfies `p` and everything it can end with satisfies `q`,
whatever the answers are. -/
inductive Meets (p : Request → Prop) (q : α → Prop) : Dialogue α → Prop where
  | done {a : α} (ha : q a) : Meets p q (.done a)
  | ask {request : Request} {next : Answer → Dialogue α} (hrequest : p request)
      (hnext : ∀ answer, Meets p q (next answer)) : Meets p q (.ask request next)

variable {registry}

namespace Meets

variable {p p' : Request → Prop} {q q' : α → Prop} {r : β → Prop}

theorem bind {d : Dialogue α} {f : α → Dialogue β} (hd : d.Meets p q)
    (hf : ∀ a, q a → (f a).Meets p r) : (d.bind f).Meets p r := by
  induction hd with
  | done ha => exact hf _ ha
  | ask hrequest _ ih => exact .ask hrequest ih

theorem map {d : Dialogue α} {f : α → β} (hd : d.Meets p q) (hf : ∀ a, q a → r (f a)) :
    (d.map f).Meets p r :=
  hd.bind fun a ha => .done (hf a ha)

theorem bind_any (hp : ∀ r, p r) (d : Dialogue α) {f : α → Dialogue β}
    (hf : ∀ a, (f a).Meets p r) : (d.bind f).Meets p r := by
  induction d with
  | done a => exact hf a
  | ask request next ih => exact .ask (hp request) ih

theorem mono {d : Dialogue α} (hd : d.Meets p q) (hp : ∀ r, p r → p' r) (hq : ∀ a, q a → q' a) :
    d.Meets p' q' := by
  induction hd with
  | done ha => exact .done (hq _ ha)
  | ask hrequest _ ih => exact .ask (hp _ hrequest) ih

theorem result {d : Dialogue α} (hd : d.Meets p q) (registry : Responder σ) (s : σ) :
    q (result registry d s) := by
  induction hd generalizing s with
  | done ha => exact ha
  | ask _ _ ih => exact ih _ _

theorem calls {d : Dialogue α} (hd : d.Meets p q) (registry : Responder σ) (s : σ) :
    ∀ request ∈ calls registry d s, p request := by
  induction hd generalizing s with
  | done ha => simp
  | ask hrequest _ ih =>
      intro request hmem
      rw [calls_ask, List.mem_cons] at hmem
      rcases hmem with rfl | hmem
      · exact hrequest
      · exact ih _ _ request hmem

end Meets

/-- The state of a registry after a list of requests. -/
def after (registry : Responder σ) (s : σ) : List Request → σ
  | [] => s
  | request :: rest => after registry (registry s request).2 rest

theorem after_append (s : σ) (before later : List Request) :
    after registry s (before ++ later) = after registry (after registry s before) later := by
  induction before generalizing s with
  | nil => rfl
  | cons request rest ih => exact ih _

theorem endState_eq_after (d : Dialogue α) (s : σ) :
    endState registry d s = after registry s (calls registry d s) := by
  induction d generalizing s with
  | done a => rfl
  | ask request next ih => exact ih _ _

/-- The registry answers each of the requests as `p` says, which sees the requests before it too. -/
def Replies (registry : Responder σ) (s : σ) (asked : List Request)
    (p : List Request → Request → Answer → Prop) : Prop :=
  ∀ history call, history ++ [call] <+: asked →
    p history call (registry (after registry s history) call).1

namespace Replies

variable {s : σ} {asked later : List Request} {call : Request}
variable {p : List Request → Request → Answer → Prop}

theorem mono {p' : List Request → Request → Answer → Prop} (h : Replies registry s asked p)
    (hp : ∀ history call answer, p history call answer → p' history call answer) :
    Replies registry s asked p' := by
  intro history call hasked
  exact hp history call _ (h history call hasked)

theorem head (h : Replies registry s (call :: asked) p) : p [] call (registry s call).1 :=
  h [] call ⟨asked, rfl⟩

theorem left (h : Replies registry s (asked ++ later) p) : Replies registry s asked p := by
  intro history call hasked
  exact h history call (hasked.trans (List.prefix_append asked later))

theorem right (h : Replies registry s (asked ++ later) p) :
    Replies registry (after registry s asked) later fun history => p (asked ++ history) := by
  intro history call hasked
  rw [← after_append]
  refine h (asked ++ history) call ?_
  rw [List.append_assoc]
  exact (List.prefix_append_right_inj asked).mpr hasked

end Replies

end Dialogue

end RegistryConsole.Registry
