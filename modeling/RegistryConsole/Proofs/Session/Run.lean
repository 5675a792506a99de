import Mathlib.Data.List.Induction
import RegistryConsole.Proofs.Session.Snapshot
/-!
# Runs of a session store

A session store answers calls one after another. The registry's answer comes with each call that
needs one, the clock moves only by calls, and every call may have some of its accesses to the
storage refused. No call uses the same access twice, so refusing an access for one call refuses one
use of it.
-/
namespace RegistryConsole

/-- A snapshot's storage, the clock it is read against, and how long a snapshot lasts. -/
structure SessionStore where
  ttl : Instant.Span
  now : Instant
  storage : Storage

namespace SessionStore

inductive Call where
  | refresh (answer : Envelope SessionDetails)
  | clear (answer : Envelope Bool)
  | get
  | isAvailable
  | advance (span : Instant.Span)

inductive Reply where
  | done
  | session (found : Option Session)
  | available (is : Bool)
  deriving DecidableEq, Repr

/-- What a call gives back, and the store after it. -/
def perform (store : SessionStore) : Call → Except StorageError Reply × SessionStore
  | .refresh answer =>
    let (result, storage) := Snapshot.refresh store.now store.ttl answer store.storage
    (result.map fun _ => .done, { store with storage := storage })
  | .clear answer =>
    let (result, storage) := Snapshot.clear answer store.storage
    (result.map fun _ => .done, { store with storage := storage })
  | .get => ((Snapshot.load store.now store.storage).map .session, store)
  | .isAvailable => ((Snapshot.isAvailable store.now store.storage).map .available, store)
  | .advance span => (.ok .done, { store with now := store.now.add span })

/-- One call, with the accesses that are refused while it lasts. -/
structure Step where
  call : Call
  refuses : Storage.Access → Option String := fun _ => none

/-- A call that was made, and when. -/
structure Event where
  time : Instant
  call : Call
  result : Except StorageError Reply

/-- The same items, with other accesses refused. -/
def refusing (store : SessionStore) (refuses : Storage.Access → Option String) : SessionStore :=
  { store with storage := { store.storage with refuses := refuses } }

def take (store : SessionStore) (step : Step) : Event × SessionStore :=
  let (result, next) := (store.refusing step.refuses).perform step.call
  (⟨store.now, step.call, result⟩, next.refusing store.storage.refuses)

def play (store : SessionStore) : List Step → List Event × SessionStore
  | [] => ([], store)
  | step :: rest =>
    let (event, next) := store.take step
    let (events, last) := next.play rest
    (event :: events, last)

theorem play_append (store : SessionStore) (steps more : List Step) :
    store.play (steps ++ more) =
      ((store.play steps).1 ++ ((store.play steps).2.play more).1,
        ((store.play steps).2.play more).2) := by
  induction steps generalizing store with
  | nil => rfl
  | cons step rest ih =>
      simp only [List.cons_append, play]
      rw [ih]

theorem play_snoc (store : SessionStore) (steps : List Step) (step : Step) :
    store.play (steps ++ [step]) =
      ((store.play steps).1 ++ [((store.play steps).2.take step).1],
        ((store.play steps).2.take step).2) := by
  rw [play_append]
  rfl

/-- What holds at the start and is kept by every step holds at the end of every run. -/
theorem play_induction {P : List Event → SessionStore → Prop} (store : SessionStore)
    (steps : List Step) (hstart : P [] store)
    (hstep : ∀ events last, P events last → ∀ step ∈ steps,
      P (events ++ [(last.take step).1]) (last.take step).2) :
    P (store.play steps).1 (store.play steps).2 := by
  induction steps using List.reverseRecOn with
  | nil => exact hstart
  | append_singleton steps step ih =>
      rw [play_snoc]
      apply hstep
      · apply ih
        intro events last hlast step' hmem
        exact hstep events last hlast step' (List.mem_append_left _ hmem)
      · simp

section Take

variable (store : SessionStore) (step : Step)

@[simp] theorem take_call : (store.take step).1.call = step.call := rfl

@[simp] theorem take_ttl : (store.take step).2.ttl = store.ttl := by
  obtain ⟨call, refuses⟩ := step
  cases call <;> rfl

theorem take_isValid (h : store.now.IsValid) : (store.take step).2.now.IsValid := by
  obtain ⟨call, refuses⟩ := step
  cases call with
  | advance span => exact h.add span
  | refresh answer => exact h
  | clear answer => exact h
  | get => exact h
  | isAvailable => exact h

theorem load_of_take_get {refuses : Storage.Access → Option String} {found : Option Session}
    (h : (store.take ⟨.get, refuses⟩).1.result = .ok (.session found)) :
    Snapshot.load store.now (store.refusing refuses).storage = .ok found := by
  change (Snapshot.load store.now (store.refusing refuses).storage).map Reply.session =
    .ok (.session found) at h
  cases hload : Snapshot.load store.now (store.refusing refuses).storage with
  | error e =>
      rw [hload] at h
      cases h
  | ok found' =>
      rw [hload] at h
      cases h
      rfl

end Take

@[simp] theorem play_ttl (store : SessionStore) (steps : List Step) :
    (store.play steps).2.ttl = store.ttl := by
  induction steps using List.reverseRecOn with
  | nil => rfl
  | append_singleton steps step ih => rw [play_snoc, take_ttl, ih]

theorem take_value?_ne (store : SessionStore) (step : Step) {key : String}
    (hkey : key ∉ Snapshot.keys) :
    (store.take step).2.storage.value? key = store.storage.value? key := by
  obtain ⟨call, refuses⟩ := step
  cases call with
  | refresh answer =>
      cases answer with
      | ok details =>
          obtain h | ⟨text, htext, -⟩ := Storage.value?_setAll (store.refusing refuses).storage
            (Snapshot.itemsOf details (store.now.add store.ttl)) key
          · exact h
          · exact absurd (Snapshot.mem_keys_of_mem_itemsOf htext) hkey
      | error message details => rfl
  | clear answer =>
      cases answer with
      | ok data =>
          obtain h | ⟨hmem, -⟩ := Storage.value?_removeAll (store.refusing refuses).storage
            Snapshot.keys key
          · exact h
          · exact absurd hmem hkey
      | error message details => rfl
  | get => rfl
  | isAvailable => rfl
  | advance span => rfl

theorem play_value?_ne (store : SessionStore) (steps : List Step) {key : String}
    (hkey : key ∉ Snapshot.keys) :
    (store.play steps).2.storage.value? key = store.storage.value? key := by
  induction steps using List.reverseRecOn with
  | nil => rfl
  | append_singleton steps step ih => rw [play_snoc, take_value?_ne _ _ hkey, ih]

end SessionStore

end RegistryConsole
