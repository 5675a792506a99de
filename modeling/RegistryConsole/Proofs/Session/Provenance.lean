import RegistryConsole.Proofs.Session.Run
/-!
# The provenance of a session

A snapshot is written item by item, its time last, and a write that is refused ends it. So what a
get gives back expires when the last refresh that was written to its end says, but the name, the
address and the groups may be those of refreshes that were cut short since then. All of it comes
from one answer of the registry if there were none.
-/
namespace RegistryConsole

def SessionDetails.sessionUntil (details : SessionDetails) (expireAt : Instant) : Session :=
  ⟨details.name, details.email, details.groups.flatMap Snapshot.splitGroups, expireAt⟩

namespace SessionStore

open Snapshot

/-- The registry answered a refresh with details, of which only some were written, or none. -/
def Event.CutShort (event : Event) (details : SessionDetails) : Prop :=
  event.call = .refresh (.ok details) ∧ ∃ e, event.result = .error e

/-- The last refresh that was written to its end, and the events since. -/
def LastWritten (events : List Event) (time : Instant) (details : SessionDetails)
    (since : List Event) : Prop :=
  (∃ before, events = before ++ ⟨time, .refresh (.ok details), .ok .done⟩ :: since) ∧
    ∀ event ∈ since, ∀ other, event.call = .refresh (.ok other) → event.CutShort other

/-- The answers whose details may be stored after a refresh was written to its end. -/
def Source (details : SessionDetails) (since : List Event) (source : SessionDetails) : Prop :=
  source = details ∨ ∃ event ∈ since, event.CutShort source

theorem Source.snoc {details source : SessionDetails} {since : List Event}
    (h : Source details since source) (event : Event) :
    Source details (since ++ [event]) source := by
  obtain rfl | ⟨event', hmem, hcut⟩ := h
  · exact .inl rfl
  · exact .inr ⟨event', List.mem_append_left _ hmem, hcut⟩

theorem LastWritten.snoc {events since : List Event} {time : Instant} {details : SessionDetails}
    (h : LastWritten events time details since) {event : Event}
    (hevent : ∀ other, event.call = .refresh (.ok other) → event.CutShort other) :
    LastWritten (events ++ [event]) time details (since ++ [event]) := by
  obtain ⟨⟨before, rfl⟩, hsince⟩ := h
  refine ⟨⟨before, by simp⟩, ?_⟩
  intro event' hmem
  rcases List.mem_append.mp hmem with hmem | hmem
  · exact hsince event' hmem
  · rw [List.mem_singleton.mp hmem]
    exact hevent

theorem lastWritten_refresh (events : List Event) (time : Instant) (details : SessionDetails) :
    LastWritten (events ++ [⟨time, .refresh (.ok details), .ok .done⟩]) time details [] :=
  ⟨⟨events, rfl⟩, by simp⟩

def userKeys : List String :=
  [nameKey, emailKey, groupsKey]

/-- If there is an item of the time, then it is that of the last refresh written to its end, and all
that is stored of the user has a source. -/
structure Composed (events : List Event) (store : SessionStore) : Prop where
  now_isValid : store.now.IsValid
  written : ∀ value, store.storage.value? expiryKey = some value →
    ∃ time details since, time.IsValid ∧ LastWritten events time details since ∧
      value = .string ((time.add store.ttl).text .numeric) ∧
      ∀ key ∈ userKeys, ∀ value, store.storage.value? key = some value →
        ∃ source text, Source details since source ∧ (key, text) ∈ userItems source ∧
          value = .string text

variable {events : List Event} {store : SessionStore}

/-- A step that leaves the time alone, if it is there after it, and stores of the user only what it
was cut short with. -/
private theorem Composed.snoc (h : Composed events store) (step : Step)
    (hexpiry : ∀ value, (store.take step).2.storage.value? expiryKey = some value →
      store.storage.value? expiryKey = some value)
    (huser : ∀ key ∈ userKeys, ∀ value, (store.take step).2.storage.value? key = some value →
      store.storage.value? key = some value ∨
        ∃ source text, (store.take step).1.CutShort source ∧ (key, text) ∈ userItems source ∧
          value = .string text)
    (hevent : ∀ other, step.call = .refresh (.ok other) → (store.take step).1.CutShort other) :
    Composed (events ++ [(store.take step).1]) (store.take step).2 := by
  refine ⟨take_isValid store step h.now_isValid, ?_⟩
  intro value hvalue
  obtain ⟨time, details, since, hvalid, hlast, htext, hsources⟩ :=
    h.written value (hexpiry value hvalue)
  refine ⟨time, details, since ++ [(store.take step).1], hvalid, hlast.snoc hevent,
    by rw [take_ttl, htext], ?_⟩
  intro key hkey value hvalue
  obtain hold | ⟨source, text, hcut, hitem, hnew⟩ := huser key hkey value hvalue
  · obtain ⟨source, text, hsource, hitem, hsame⟩ := hsources key hkey value hold
    exact ⟨source, text, hsource.snoc _, hitem, hsame⟩
  · exact ⟨source, text, .inr ⟨_, by simp, hcut⟩, hitem, hnew⟩

private theorem Composed.kept (h : Composed events store) (step : Step)
    (hstorage : ∀ key, (store.take step).2.storage.value? key = store.storage.value? key ∨
      (store.take step).2.storage.value? key = none)
    (hcall : ∀ details, step.call ≠ .refresh (.ok details)) :
    Composed (events ++ [(store.take step).1]) (store.take step).2 := by
  have hold : ∀ key value, (store.take step).2.storage.value? key = some value →
      store.storage.value? key = some value := by
    intro key value hvalue
    obtain hsame | hnone := hstorage key
    · rw [← hsame, hvalue]
    · rw [hnone] at hvalue
      cases hvalue
  exact h.snoc step (hold expiryKey) (fun key _ value hvalue => .inl (hold key value hvalue))
    fun details hdetails => absurd hdetails (hcall details)

private theorem take_refresh_result (store : SessionStore) (details : SessionDetails)
    (refuses : Storage.Access → Option String) :
    (store.take ⟨.refresh (.ok details), refuses⟩).1.result =
      ((store.refusing refuses).storage.setAll
        (itemsOf details (store.now.add store.ttl))).1.map fun _ => Reply.done := rfl

/-- A refresh that is written to its end is the source of all that is stored. -/
private theorem Composed.refresh_written (h : Composed events store) (details : SessionDetails)
    (refuses : Storage.Access → Option String)
    (hset : ((store.refusing refuses).storage.setAll
      (itemsOf details (store.now.add store.ttl))).1 = .ok ()) :
    let step : Step := ⟨.refresh (.ok details), refuses⟩
    Composed (events ++ [(store.take step).1]) (store.take step).2 := by
  intro step
  have hevent : (store.take step).1 = ⟨store.now, .refresh (.ok details), .ok .done⟩ := by
    have hresult := take_refresh_result store details refuses
    rw [hset] at hresult
    exact congrArg (Event.mk store.now step.call) hresult
  have hitems : ∀ item ∈ itemsOf details (store.now.add store.ttl),
      (store.take step).2.storage.value? item.1 = some (.string item.2) :=
    Storage.value?_setAll_ok _ _ keys_nodup hset
  rw [itemsOf_eq] at hitems
  refine ⟨take_isValid store step h.now_isValid, ?_⟩
  intro value hvalue
  refine ⟨store.now, details, [], h.now_isValid, hevent ▸ lastWritten_refresh events _ details,
    ?_, ?_⟩
  · have hnew := hitems _ (List.mem_append_right _ List.mem_cons_self)
    exact Option.some.inj (hvalue.symm.trans hnew)
  · intro key hkey value hvalue
    obtain ⟨item, hitem, rfl⟩ := List.mem_map.mp
      (show key ∈ (userItems details).map Prod.fst from hkey)
    rw [hitems item (List.mem_append_left _ hitem)] at hvalue
    exact ⟨details, item.2, .inl rfl, hitem, (Option.some.inj hvalue).symm⟩

private theorem Composed.refresh_cutShort (h : Composed events store) (details : SessionDetails)
    (refuses : Storage.Access → Option String) {e : StorageError}
    (hset : ((store.refusing refuses).storage.setAll
      (itemsOf details (store.now.add store.ttl))).1 = .error e) :
    let step : Step := ⟨.refresh (.ok details), refuses⟩
    Composed (events ++ [(store.take step).1]) (store.take step).2 := by
  intro step
  have hcut : (store.take step).1.CutShort details := by
    have hresult := take_refresh_result store details refuses
    rw [hset] at hresult
    exact ⟨rfl, e, hresult⟩
  refine h.snoc step ?_ ?_ ?_
  · -- the time is written last, so it is still the old one
    intro value hvalue
    have hsame := Storage.value?_setAll_last (store.refusing refuses).storage
      (userItems details) (expiryKey, (store.now.add store.ttl).text .numeric)
      (expiryKey_not_mem_userItems details) (by rw [← itemsOf_eq, hset]; simp)
    exact hsame.symm.trans hvalue
  · intro key hkey value hvalue
    obtain hsame | ⟨text, htext, hnew⟩ := Storage.value?_setAll
      (store.refusing refuses).storage (itemsOf details (store.now.add store.ttl)) key
    · exact .inl (hsame.symm.trans hvalue)
    · right
      refine ⟨details, text, hcut, ?_, Option.some.inj (hvalue.symm.trans hnew)⟩
      rw [itemsOf_eq] at htext
      rcases List.mem_append.mp htext with htext | htext
      · exact htext
      · cases List.mem_singleton.mp htext
        exact absurd hkey (by decide)
  · intro other hother
    cases hother
    exact hcut

theorem Composed.take (h : Composed events store) (step : Step) :
    Composed (events ++ [(store.take step).1]) (store.take step).2 := by
  obtain ⟨call, refuses⟩ := step
  cases call with
  | refresh answer =>
      cases answer with
      | ok details =>
          cases hset : ((store.refusing refuses).storage.setAll
              (itemsOf details (store.now.add store.ttl))).1 with
          | ok done => exact h.refresh_written details refuses hset
          | error e => exact h.refresh_cutShort details refuses hset
      | error message details => exact h.kept _ (fun _ => .inl rfl) (by simp)
  | clear answer =>
      cases answer with
      | ok data =>
          refine h.kept _ ?_ (by simp)
          intro key
          exact (Storage.value?_removeAll (store.refusing refuses).storage keys key).imp_right
            fun hnone => hnone.2
      | error message details => exact h.kept _ (fun _ => .inl rfl) (by simp)
  | get => exact h.kept _ (fun _ => .inl rfl) (by simp)
  | isAvailable => exact h.kept _ (fun _ => .inl rfl) (by simp)
  | advance span => exact h.kept _ (fun _ => .inl rfl) (by simp)

theorem Composed.play (store : SessionStore) (hvalid : store.now.IsValid)
    (habsent : ∀ key ∈ keys, store.storage.value? key = none) (steps : List Step) :
    Composed (store.play steps).1 (store.play steps).2 := by
  apply play_induction
  · exact ⟨hvalid, by simp [habsent expiryKey (by decide)]⟩
  · intro events last h step _
    exact h.take step

private theorem Composed.parts (h : Composed events store) {session : Session}
    {refuses : Storage.Access → Option String}
    (hload : Available store.now (store.refusing refuses).storage session) :
    ∃ time details since, LastWritten events time details since ∧
      session.expireAt = time.add store.ttl ∧
      (∃ source, Source details since source ∧ session.userName = source.name) ∧
      (∃ source, Source details since source ∧ session.userEmail = source.email) ∧
      ∃ source, Source details since source ∧
        session.userGroups = source.groups.flatMap splitGroups := by
  obtain ⟨expiry, hexpiry, hstrict⟩ := hload.expiry
  obtain ⟨time, details, since, htime, hlast, htext, hsources⟩ := h.written _ hexpiry
  rw [Json.string.inj htext] at hstrict
  refine ⟨time, details, since, hlast,
    ((Instant.strict?_text _ _ (htime.add store.ttl)).mp hstrict).2, ?_, ?_, ?_⟩
  · obtain ⟨source, text, hsource, hitem, hstored⟩ := hsources nameKey (by decide) _ hload.name
    rw [eq_of_mem_userItems_name hitem] at hstored
    exact ⟨source, hsource, Json.string.inj hstored⟩
  · obtain ⟨source, text, hsource, hitem, hstored⟩ := hsources emailKey (by decide) _ hload.email
    rw [eq_of_mem_userItems_email hitem] at hstored
    exact ⟨source, hsource, Json.string.inj hstored⟩
  · obtain ⟨groups, hgroups, hsplit⟩ := hload.groups
    obtain ⟨source, text, hsource, hitem, hstored⟩ := hsources groupsKey (by decide) _ hgroups
    rw [eq_of_mem_userItems_groups hitem] at hstored
    rw [Json.string.inj hstored, splitGroups_joinGroups] at hsplit
    exact ⟨source, hsource, hsplit⟩

/-- What a get gives back expires when the last refresh that was written to its end says. The name,
the address and the groups each come from that refresh or from one that was cut short since, and all
of it is one answer of the registry unless there was such a one. -/
theorem get_sources (store : SessionStore) (hvalid : store.now.IsValid)
    (habsent : ∀ key ∈ keys, store.storage.value? key = none) (steps : List Step)
    (refuses : Storage.Access → Option String) (session : Session)
    (hget : ((store.play steps).2.take ⟨.get, refuses⟩).1.result =
      .ok (.session (some session))) :
    ∃ time details since, LastWritten (store.play steps).1 time details since ∧
      session.expireAt = time.add store.ttl ∧
      (∃ source, Source details since source ∧ session.userName = source.name) ∧
      (∃ source, Source details since source ∧ session.userEmail = source.email) ∧
      (∃ source, Source details since source ∧
        session.userGroups = source.groups.flatMap splitGroups) ∧
      ((∀ event ∈ since, ∀ other, ¬ event.CutShort other) →
        session = details.sessionUntil (time.add store.ttl)) := by
  obtain ⟨time, details, since, hlast, hexpireAt, hname, hemail, hgroups⟩ :=
    (Composed.play store hvalid habsent steps).parts (.of_load (load_of_take_get _ hget))
  rw [play_ttl] at hexpireAt
  refine ⟨time, details, since, hlast, hexpireAt, hname, hemail, hgroups, ?_⟩
  intro hcut
  have hone : ∀ source, Source details since source → source = details := by
    rintro source (rfl | ⟨event, hmem, hevent⟩)
    · rfl
    · exact absurd hevent (hcut event hmem source)
  obtain ⟨source, hsource, hname⟩ := hname
  obtain ⟨source', hsource', hemail⟩ := hemail
  obtain ⟨source'', hsource'', hgroups⟩ := hgroups
  rw [hone source hsource] at hname
  rw [hone source' hsource'] at hemail
  rw [hone source'' hsource''] at hgroups
  obtain ⟨userName, userEmail, userGroups, expireAt⟩ := session
  dsimp only at hname hemail hgroups hexpireAt
  rw [hname, hemail, hgroups, hexpireAt]
  rfl

private def ada : SessionDetails :=
  ⟨"Ada", "ada@example.org", ["staff"], none⟩

private def grace : SessionDetails :=
  ⟨"Grace", "grace@example.org", ["navy"], none⟩

private def hourlyStore : SessionStore :=
  ⟨.ofSeconds 3600, ⟨0, 0⟩, {}⟩

private def refusingOnly (access : Storage.Access) : Storage.Access → Option String :=
  fun access' => if access' = access then some "busy" else none

private def cutShort : List Step :=
  [⟨.refresh (.ok ada), fun _ => none⟩, ⟨.advance (.ofSeconds 60), fun _ => none⟩,
    ⟨.refresh (.ok grace), refusingOnly (.set emailKey)⟩]

/-- All of a session comes from one answer of the registry. -/
def FromOneAnswer (events : List Event) (ttl : Instant.Span) (session : Session) : Prop :=
  ∃ event ∈ events, ∃ details, event.call = .refresh (.ok details) ∧
    session = details.sessionUntil (event.time.add ttl)

/-- The name of one user is given back with the address, the groups and the time of another. -/
theorem get_mixed_of_cutShort :
    hourlyStore.now.IsValid ∧ (∀ key ∈ keys, hourlyStore.storage.value? key = none) ∧
      ((hourlyStore.play cutShort).2.take ⟨.get, fun _ => none⟩).1.result =
        .ok (.session (some ⟨"Grace", "ada@example.org", ["staff"], ⟨3600, 0⟩⟩)) ∧
      ¬ FromOneAnswer (hourlyStore.play cutShort).1 hourlyStore.ttl
        ⟨"Grace", "ada@example.org", ["staff"], ⟨3600, 0⟩⟩ := by
  refine ⟨by decide, by decide, by decide +kernel, ?_⟩
  rintro ⟨event, hmem, details, hcall, hsession⟩
  have hcalls : event.call ∈ cutShort.map Step.call := List.mem_map_of_mem hmem
  rw [hcall] at hcalls
  simp only [cutShort, List.map_cons, List.map_nil, List.mem_cons, List.not_mem_nil, or_false,
    Call.refresh.injEq, Envelope.ok.injEq, reduceCtorEq, false_or] at hcalls
  rcases hcalls with rfl | rfl
  · exact absurd (congrArg Session.userName hsession) (by decide : "Grace" ≠ "Ada")
  · exact absurd (congrArg Session.userEmail hsession)
      (by decide : "ada@example.org" ≠ "grace@example.org")

/-- A clear that drops only the name of Ada comes between. -/
private def cutShortTwice : List Step :=
  [⟨.refresh (.ok ada), fun _ => none⟩, ⟨.clear (.ok true), refusingOnly (.remove emailKey)⟩,
    ⟨.refresh (.ok grace), refusingOnly (.set emailKey)⟩]

theorem get_sources_after_partial_clear :
    (hourlyStore.now.IsValid ∧ (∀ key ∈ keys, hourlyStore.storage.value? key = none) ∧
      ((hourlyStore.play cutShortTwice).2.take ⟨.get, fun _ => none⟩).1.result =
        .ok (.session (some ⟨"Grace", "ada@example.org", ["staff"], ⟨3600, 0⟩⟩))) ∧
    ∃ time details since, LastWritten (hourlyStore.play cutShortTwice).1 time details since ∧
      ⟨3600, 0⟩ = time.add hourlyStore.ttl ∧
      ∃ source, Source details since source ∧ "Grace" = source.name := by
  have hvalid : hourlyStore.now.IsValid := by decide
  have habsent : ∀ key ∈ keys, hourlyStore.storage.value? key = none := by decide
  have hget : ((hourlyStore.play cutShortTwice).2.take ⟨.get, fun _ => none⟩).1.result =
      .ok (.session (some ⟨"Grace", "ada@example.org", ["staff"], ⟨3600, 0⟩⟩)) := by
    decide +kernel
  obtain ⟨time, details, since, hlast, hexpireAt, hname, -⟩ :=
    get_sources hourlyStore hvalid habsent cutShortTwice _ _ hget
  exact ⟨⟨hvalid, habsent, hget⟩, time, details, since, hlast, hexpireAt, hname⟩

end SessionStore

end RegistryConsole
