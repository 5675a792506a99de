import Mathlib.Data.List.Basic
import RegistryConsole.Proofs.Session.Run
/-!
# The meaning of a run

While its storage refuses nothing, a session store behaves as if it kept one thing only: the details
and the time of the latest refresh that the registry confirmed, until the registry accepts a clear
(`standing`). The four items of a snapshot represent just that (`Represents`), so what a get gives
back can be told from the calls and the registry's answers alone.
-/
namespace RegistryConsole.SessionStore

open Snapshot

def Step.undisturbed (call : Call) : Step :=
  ⟨call, fun _ => none⟩

/-- The registry answered a refresh or a clear with success. -/
def Event.Accepted (event : Event) : Prop :=
  (∃ details, event.call = .refresh (.ok details)) ∨ ∃ data, event.call = .clear (.ok data)

/-- Of the refreshes and clears that the registry accepted, the latest is a refresh. -/
def LatestRefresh (events : List Event) (time : Instant) (details : SessionDetails) : Prop :=
  ∃ before result later, events = before ++ ⟨time, .refresh (.ok details), result⟩ :: later ∧
    ∀ event ∈ later, ¬ event.Accepted

def Event.update (event : Event) (standing : Option (Instant × SessionDetails)) :
    Option (Instant × SessionDetails) :=
  match event.call with
  | .refresh (.ok details) => some (event.time, details)
  | .clear (.ok _) => none
  | _ => standing

/-- The confirmation that a run leaves in force, if any. -/
def standing (events : List Event) : Option (Instant × SessionDetails) :=
  events.foldl (fun standing event => event.update standing) none

theorem standing_snoc (events : List Event) (event : Event) :
    standing (events ++ [event]) = event.update (standing events) := by
  rw [standing, List.foldl_append]
  rfl

theorem latestRefresh_snoc {events : List Event} {event : Event} {time : Instant}
    {details : SessionDetails} :
    LatestRefresh (events ++ [event]) time details ↔
      (∃ result, event = ⟨time, .refresh (.ok details), result⟩) ∨
        ¬ event.Accepted ∧ LatestRefresh events time details := by
  constructor
  · rintro ⟨before, result, later, hsplit, hlater⟩
    rcases List.eq_nil_or_concat' later with rfl | ⟨later, last, rfl⟩
    · obtain ⟨-, hevent⟩ := List.append_inj' hsplit rfl
      exact .inl ⟨result, List.singleton_inj.mp hevent⟩
    · rw [← List.cons_append, ← List.append_assoc] at hsplit
      obtain ⟨hevents, hevent⟩ := List.append_inj' hsplit rfl
      rw [List.singleton_inj.mp hevent]
      refine .inr ⟨hlater last (by simp), before, result, later, hevents, ?_⟩
      intro event' hmem
      exact hlater event' (List.mem_append_left _ hmem)
  · rintro (⟨result, rfl⟩ | ⟨hevent, before, result, later, rfl, hlater⟩)
    · exact ⟨events, result, [], rfl, by simp⟩
    · refine ⟨before, result, later ++ [event], by simp, ?_⟩
      intro event' hmem
      rcases List.mem_append.mp hmem with hmem | hmem
      · exact hlater event' hmem
      · rw [List.mem_singleton.mp hmem]
        exact hevent

theorem LatestRefresh.exists_event {events : List Event} {time : Instant}
    {details : SessionDetails} (h : LatestRefresh events time details) :
    ∃ event ∈ events, event.time = time := by
  obtain ⟨before, result, later, rfl, -⟩ := h
  exact ⟨_, List.mem_append_right _ List.mem_cons_self, rfl⟩

theorem Event.update_of_not_accepted {event : Event} (h : ¬ event.Accepted)
    (standing : Option (Instant × SessionDetails)) : event.update standing = standing := by
  rw [update]
  split
  next details hcall => exact absurd (.inl ⟨details, hcall⟩) h
  next data hcall => exact absurd (.inr ⟨data, hcall⟩) h
  next => rfl

theorem standing_eq_some {events : List Event} {time : Instant} {details : SessionDetails} :
    standing events = some (time, details) ↔ LatestRefresh events time details := by
  induction events using List.reverseRecOn with
  | nil =>
      constructor
      · intro h
        cases h
      · rintro ⟨before, result, later, h, -⟩
        simp at h
  | append_singleton events event ih =>
      rw [standing_snoc, latestRefresh_snoc]
      by_cases hevent : event.Accepted
      · obtain ⟨time', call, result⟩ := event
        rcases hevent with ⟨details', rfl⟩ | ⟨data, rfl⟩
        · simp [Event.update, Event.Accepted]
        · simp [Event.update, Event.Accepted]
      · rw [Event.update_of_not_accepted hevent, ih]
        constructor
        · exact fun h => .inr ⟨hevent, h⟩
        · rintro (⟨result, rfl⟩ | h)
          · exact absurd (.inl ⟨details, rfl⟩) hevent
          · exact h.2

/-- The four items are those of a confirmation, or all absent if there is none. -/
def Holds (ttl : Instant.Span) (s : Storage) : Option (Instant × SessionDetails) → Prop
  | none => ∀ key ∈ keys, s.value? key = none
  | some (time, details) => time.IsValid ∧
      ∀ item ∈ itemsOf details (time.add ttl), s.value? item.1 = some (.string item.2)

structure Represents (events : List Event) (store : SessionStore) : Prop where
  now_isValid : store.now.IsValid
  holds : Holds store.ttl store.storage (standing events)

theorem Holds.texts {ttl : Instant.Span} {s : Storage}
    {standing : Option (Instant × SessionDetails)} (h : Holds ttl s standing) :
    ∀ key ∈ keys, s.value? key = none ∨ ∃ text, s.value? key = some (.string text) := by
  intro key hkey
  cases standing with
  | none => exact .inl (h key hkey)
  | some confirmed =>
      rw [← itemsOf_keys confirmed.2 (confirmed.1.add ttl)] at hkey
      obtain ⟨item, hitem, rfl⟩ := List.mem_map.mp hkey
      exact .inr ⟨item.2, h.2 item hitem⟩

variable {events : List Event} {store : SessionStore}

private theorem Represents.refresh (h : Represents events store) (details : SessionDetails) :
    Represents (events ++ [(store.take (.undisturbed (.refresh (.ok details)))).1])
      (store.take (.undisturbed (.refresh (.ok details)))).2 := by
  refine ⟨h.now_isValid, ?_⟩
  rw [standing_snoc]
  refine ⟨h.now_isValid, ?_⟩
  have hopen : (store.refusing fun _ => none).storage.IsOpen := fun _ => rfl
  exact (Storage.setAll_of_isOpen hopen (itemsOf details (store.now.add store.ttl))
    keys_nodup).2

private theorem Represents.clear (h : Represents events store) (data : Bool) :
    Represents (events ++ [(store.take (.undisturbed (.clear (.ok data)))).1])
      (store.take (.undisturbed (.clear (.ok data)))).2 := by
  refine ⟨h.now_isValid, ?_⟩
  rw [standing_snoc]
  have hopen : (store.refusing fun _ => none).storage.IsOpen := fun _ => rfl
  have hok := Storage.removeAll_of_isOpen hopen keys h.holds.texts
  intro key hkey
  exact Storage.value?_removeAll_ok _ keys hok key hkey

private theorem Represents.snoc (h : Represents events store) (call : Call)
    (hcall : ¬ (store.take (.undisturbed call)).1.Accepted)
    (hstorage : (store.take (.undisturbed call)).2.storage = store.storage) :
    Represents (events ++ [(store.take (.undisturbed call)).1])
      (store.take (.undisturbed call)).2 := by
  refine ⟨take_isValid _ _ h.now_isValid, ?_⟩
  rw [standing_snoc, Event.update_of_not_accepted hcall, hstorage, take_ttl]
  exact h.holds

theorem Represents.take (h : Represents events store) (call : Call) :
    Represents (events ++ [(store.take (.undisturbed call)).1])
      (store.take (.undisturbed call)).2 := by
  cases call with
  | refresh answer =>
      cases answer with
      | ok details => exact h.refresh details
      | error message details => exact h.snoc _ (by simp [Event.Accepted, Step.undisturbed]) rfl
  | clear answer =>
      cases answer with
      | ok data => exact h.clear data
      | error message details => exact h.snoc _ (by simp [Event.Accepted, Step.undisturbed]) rfl
  | get => exact h.snoc _ (by simp [Event.Accepted, Step.undisturbed]) rfl
  | isAvailable => exact h.snoc _ (by simp [Event.Accepted, Step.undisturbed]) rfl
  | advance span => exact h.snoc _ (by simp [Event.Accepted, Step.undisturbed]) rfl

theorem Represents.play (store : SessionStore) (hvalid : store.now.IsValid)
    (habsent : ∀ key ∈ keys, store.storage.value? key = none) (calls : List Call) :
    Represents (store.play (calls.map .undisturbed)).1 (store.play (calls.map .undisturbed)).2 := by
  apply play_induction
  · exact ⟨hvalid, habsent⟩
  · intro events last h step hmem
    obtain ⟨call, -, rfl⟩ := List.mem_map.mp hmem
    exact h.take call

/-- What a confirmation is read as: its session until the time to live is over, unless the name or
the address is empty or the expiry time has a year that its text cannot tell. -/
theorem Holds.load {ttl : Instant.Span} {s : Storage}
    {standing : Option (Instant × SessionDetails)} (h : Holds ttl s standing) (hopen : s.IsOpen)
    (now : Instant) :
    ∃ found, Snapshot.load now s = .ok found ∧ ∀ session, found = some session ↔
      ∃ time details, standing = some (time, details) ∧ details.name ≠ "" ∧ details.email ≠ "" ∧
        (time.add ttl).HasFourDigitYear ∧ now.before (time.add ttl) = true ∧
        session = ⟨details.name, details.email, details.groups.flatMap splitGroups,
          time.add ttl⟩ := by
  cases standing with
  | none =>
      refine ⟨none, ?_, by simp⟩
      exact load_of_absent hopen h
  | some confirmed =>
      obtain ⟨time, details⟩ := confirmed
      obtain ⟨hvalid, hitems⟩ := h
      refine ⟨_, load_of_itemsOf hopen hitems, ?_⟩
      intro session
      rw [session?_eq_some]
      obtain ⟨userName, userEmail, userGroups, expireAt⟩ := session
      constructor
      · rintro ⟨hname, hemail, ⟨text, htext, hgroups⟩, ⟨expiry, hexpiry, hstrict⟩, hname_ne,
          hemail_ne, hbefore⟩
        cases hname
        cases hemail
        cases htext
        cases hexpiry
        obtain ⟨hyear, heq⟩ := (Instant.strict?_text _ _ (hvalid.add ttl)).mp hstrict
        dsimp only at heq hgroups
        subst heq
        rw [splitGroups_joinGroups] at hgroups
        exact ⟨time, details, rfl, hname_ne, hemail_ne, hyear, hbefore, by rw [hgroups]⟩
      · rintro ⟨time', details', hconfirmed, hname_ne, hemail_ne, hyear, hbefore, hsession⟩
        cases hconfirmed
        cases hsession
        exact ⟨rfl, rfl, ⟨_, rfl, (splitGroups_joinGroups _).symm⟩,
          ⟨_, rfl, (Instant.strict?_text _ _ (hvalid.add ttl)).mpr ⟨hyear, rfl⟩⟩, hname_ne,
          hemail_ne, hbefore⟩

theorem take_get_of_load {found : Option Session}
    (h : Snapshot.load store.now (store.refusing fun _ => none).storage = .ok found) :
    store.take (.undisturbed .get) = (⟨store.now, .get, .ok (.session found)⟩, store) := by
  change ((⟨store.now, .get, (Snapshot.load store.now (store.refusing fun _ => none).storage).map
    .session⟩ : Event), store) = _
  rw [h]
  rfl

theorem take_isAvailable_of_load {found : Option Session}
    (h : Snapshot.load store.now (store.refusing fun _ => none).storage = .ok found) :
    store.take (.undisturbed .isAvailable) =
      (⟨store.now, .isAvailable, .ok (.available found.isSome)⟩, store) := by
  change ((⟨store.now, .isAvailable, ((Snapshot.load store.now
    (store.refusing fun _ => none).storage).map Option.isSome).map .available⟩ : Event), store) = _
  rw [h]
  rfl

/-- After any calls, a get gives back the session of the latest refresh that the registry confirmed
since it last accepted a clear, until the time to live is over and unless the name or the address
is empty. Reading changes nothing, and no call touches an item of another key. -/
theorem get_latestRefresh (store : SessionStore) (hvalid : store.now.IsValid)
    (habsent : ∀ key ∈ keys, store.storage.value? key = none) (calls : List Call)
    (hyears : ∀ event ∈ (store.play (calls.map .undisturbed)).1,
      (event.time.add store.ttl).HasFourDigitYear) :
    let events := (store.play (calls.map .undisturbed)).1
    let last := (store.play (calls.map .undisturbed)).2
    (∃ found, last.take (.undisturbed .get) =
        (⟨last.now, .get, .ok (.session found)⟩, last) ∧
      last.take (.undisturbed .isAvailable) =
        (⟨last.now, .isAvailable, .ok (.available found.isSome)⟩, last) ∧
      ∀ session, found = some session ↔
        ∃ time details, LatestRefresh events time details ∧ details.name ≠ "" ∧
          details.email ≠ "" ∧ last.now.before (time.add store.ttl) = true ∧
          session = ⟨details.name, details.email, details.groups.flatMap splitGroups,
            time.add store.ttl⟩) ∧
      ∀ key, key ∉ keys → last.storage.value? key = store.storage.value? key := by
  intro events last
  have hrep : Represents events last := .play store hvalid habsent calls
  have hopen : (last.refusing fun _ => none).storage.IsOpen := fun _ => rfl
  obtain ⟨found, hload, hfound⟩ := Holds.load (s := (last.refusing fun _ => none).storage)
    hrep.holds hopen last.now
  refine ⟨⟨found, take_get_of_load hload, take_isAvailable_of_load hload, ?_⟩, ?_⟩
  · intro session
    rw [hfound, play_ttl]
    constructor
    · rintro ⟨time, details, hstanding, hname, hemail, -, hbefore, rfl⟩
      exact ⟨time, details, standing_eq_some.mp hstanding, hname, hemail, hbefore, rfl⟩
    · rintro ⟨time, details, hlatest, hname, hemail, hbefore, rfl⟩
      refine ⟨time, details, standing_eq_some.mpr hlatest, hname, hemail, ?_, hbefore, rfl⟩
      obtain ⟨event, hmem, rfl⟩ := hlatest.exists_event
      exact hyears event hmem
  · intro key hkey
    exact play_value?_ne store _ hkey

/-- A confirmed refresh, a clear that the registry refuses, and a refresh that it fails. -/
private def failedCalls : List Call :=
  [.refresh (.ok ⟨"Ada", "ada@example.org", ["staff#admin", ""], none⟩), .clear (.error "" []),
    .advance (.ofSeconds 59), .refresh (.error "" [])]

private def emptyStore : SessionStore :=
  ⟨.ofSeconds 60, ⟨0, 0⟩, {}⟩

private def adaSession : Session :=
  ⟨"Ada", "ada@example.org", ["staff", "admin"], ⟨60, 0⟩⟩

theorem get_latestRefresh_failed_calls :
    (emptyStore.now.IsValid ∧ (∀ key ∈ keys, emptyStore.storage.value? key = none) ∧
      ∀ event ∈ (emptyStore.play (failedCalls.map .undisturbed)).1,
        (event.time.add emptyStore.ttl).HasFourDigitYear) ∧
    ((emptyStore.play (failedCalls.map .undisturbed)).2.take (.undisturbed .get)).1.result =
      .ok (.session (some adaSession)) ∧
    ∃ time details,
      LatestRefresh (emptyStore.play (failedCalls.map .undisturbed)).1 time details ∧
        adaSession = ⟨details.name, details.email, details.groups.flatMap splitGroups,
          time.add emptyStore.ttl⟩ := by
  have hvalid : emptyStore.now.IsValid := by decide
  have habsent : ∀ key ∈ keys, emptyStore.storage.value? key = none := by decide
  have hyears : ∀ event ∈ (emptyStore.play (failedCalls.map .undisturbed)).1,
      (event.time.add emptyStore.ttl).HasFourDigitYear := by decide +kernel
  have hresult : ((emptyStore.play (failedCalls.map .undisturbed)).2.take
      (.undisturbed .get)).1.result = .ok (.session (some adaSession)) := by decide +kernel
  obtain ⟨⟨found, hget, -, hfound⟩, -⟩ :=
    get_latestRefresh emptyStore hvalid habsent failedCalls hyears
  have hsession : found = some adaSession := by
    rw [hget] at hresult
    cases hresult
    rfl
  obtain ⟨time, details, hlatest, -, -, -, hsession⟩ := (hfound adaSession).mp hsession
  exact ⟨⟨hvalid, habsent, hyears⟩, hresult, time, details, hlatest, hsession⟩

end RegistryConsole.SessionStore
