import RegistryConsole.Proofs.Session.Run
/-!
# Bounded staleness

However its storage fails, a session store gives a session back only within the time to live of a
refresh that the registry confirmed, and only if no log-out has succeeded since. The item of the
expiry time carries this alone: it is written by confirmed refreshes only, and a clear that succeeds
drops it.
-/
namespace RegistryConsole.SessionStore

open Snapshot

/-- A clear that the registry accepted and that dropped every item. -/
def Event.Cleared (event : Event) : Prop :=
  (∃ data, event.call = .clear (.ok data)) ∧ event.result = .ok .done

/-- The registry confirmed a session at a time, and no clear has succeeded since. -/
def ConfirmedAt (events : List Event) (time : Instant) : Prop :=
  ∃ before details result later,
    events = before ++ ⟨time, .refresh (.ok details), result⟩ :: later ∧
      ∀ event ∈ later, ¬ event.Cleared

theorem ConfirmedAt.snoc {events : List Event} {time : Instant} (h : ConfirmedAt events time)
    {event : Event} (hevent : ¬ event.Cleared) : ConfirmedAt (events ++ [event]) time := by
  obtain ⟨before, details, result, later, rfl, hlater⟩ := h
  refine ⟨before, details, result, later ++ [event], by simp, ?_⟩
  intro event' hmem
  rcases List.mem_append.mp hmem with hmem | hmem
  · exact hlater event' hmem
  · rw [List.mem_singleton.mp hmem]
    exact hevent

theorem confirmedAt_refresh (events : List Event) (time : Instant) (details : SessionDetails)
    (result : Except StorageError Reply) :
    ConfirmedAt (events ++ [⟨time, .refresh (.ok details), result⟩]) time :=
  ⟨events, details, result, [], rfl, by simp⟩

/-- If there is an item of the expiry time, it tells when a confirmation of the run expires. -/
structure ExpiryConfirmed (events : List Event) (store : SessionStore) : Prop where
  now_isValid : store.now.IsValid
  expiry : ∀ value, store.storage.value? expiryKey = some value →
    ∃ time, time.IsValid ∧ ConfirmedAt events time ∧
      value = .string ((time.add store.ttl).text .numeric)

variable {events : List Event} {store : SessionStore}

/-- Unless it is a clear that succeeded, a step that leaves the item alone keeps what it tells. -/
private theorem ExpiryConfirmed.snoc (h : ExpiryConfirmed events store) (step : Step)
    (hsame : (store.take step).2.storage.value? expiryKey = store.storage.value? expiryKey)
    (hcleared : ¬ (store.take step).1.Cleared) :
    ExpiryConfirmed (events ++ [(store.take step).1]) (store.take step).2 := by
  refine ⟨take_isValid store step h.now_isValid, ?_⟩
  intro value hvalue
  obtain ⟨time, hvalid, hconfirmed, hexpiry⟩ := h.expiry value (hsame ▸ hvalue)
  exact ⟨time, hvalid, hconfirmed.snoc hcleared, by rw [take_ttl, hexpiry]⟩

private theorem ExpiryConfirmed.of_absent (hvalid : store.now.IsValid)
    (h : store.storage.value? expiryKey = none) : ExpiryConfirmed events store :=
  ⟨hvalid, by simp [h]⟩

private theorem ExpiryConfirmed.refresh (h : ExpiryConfirmed events store)
    (details : SessionDetails) (refuses : Storage.Access → Option String) :
    let step : Step := ⟨.refresh (.ok details), refuses⟩
    ExpiryConfirmed (events ++ [(store.take step).1]) (store.take step).2 := by
  intro step
  have hcleared : ¬ (store.take step).1.Cleared := by
    rintro ⟨⟨data, hdata⟩, -⟩
    cases hdata
  obtain hsame | ⟨text, htext, hvalue⟩ := Storage.value?_setAll
    (store.refusing refuses).storage (itemsOf details (store.now.add store.ttl)) expiryKey
  · exact h.snoc step hsame hcleared
  · refine ⟨take_isValid store step h.now_isValid, ?_⟩
    intro value hvalue'
    have hwritten : value = .string text := Option.some.inj (hvalue'.symm.trans hvalue)
    rw [eq_of_mem_itemsOf_expiry htext] at hwritten
    exact ⟨store.now, h.now_isValid, confirmedAt_refresh _ _ details _, hwritten⟩

private theorem ExpiryConfirmed.clear (h : ExpiryConfirmed events store) (data : Bool)
    (refuses : Storage.Access → Option String) :
    let step : Step := ⟨.clear (.ok data), refuses⟩
    ExpiryConfirmed (events ++ [(store.take step).1]) (store.take step).2 := by
  intro step
  have hvalid := take_isValid store step h.now_isValid
  by_cases hok : ((store.refusing refuses).storage.removeAll keys).1 = .ok ()
  · exact .of_absent hvalid
      (Storage.value?_removeAll_ok _ keys hok expiryKey (by decide))
  · have hcleared : ¬ (store.take step).1.Cleared := by
      rintro ⟨-, hdone⟩
      apply hok
      change ((store.refusing refuses).storage.removeAll keys).1.map (fun _ => Reply.done) =
        .ok .done at hdone
      cases hresult : ((store.refusing refuses).storage.removeAll keys).1 with
      | ok done => rfl
      | error e =>
          rw [hresult] at hdone
          cases hdone
    obtain hsame | ⟨-, hnone⟩ := Storage.value?_removeAll
      (store.refusing refuses).storage keys expiryKey
    · exact h.snoc step hsame hcleared
    · exact .of_absent hvalid hnone

theorem ExpiryConfirmed.take (h : ExpiryConfirmed events store) (step : Step) :
    ExpiryConfirmed (events ++ [(store.take step).1]) (store.take step).2 := by
  obtain ⟨call, refuses⟩ := step
  cases call with
  | refresh answer =>
      cases answer with
      | ok details => exact h.refresh details refuses
      | error message details => exact h.snoc _ rfl (by rintro ⟨⟨data, hdata⟩, -⟩; cases hdata)
  | clear answer =>
      cases answer with
      | ok data => exact h.clear data refuses
      | error message details => exact h.snoc _ rfl (by rintro ⟨⟨data, hdata⟩, -⟩; cases hdata)
  | get => exact h.snoc _ rfl (by rintro ⟨⟨data, hdata⟩, -⟩; cases hdata)
  | isAvailable => exact h.snoc _ rfl (by rintro ⟨⟨data, hdata⟩, -⟩; cases hdata)
  | advance span => exact h.snoc _ rfl (by rintro ⟨⟨data, hdata⟩, -⟩; cases hdata)

theorem ExpiryConfirmed.play (store : SessionStore) (hvalid : store.now.IsValid)
    (habsent : ∀ key ∈ keys, store.storage.value? key = none) (steps : List Step) :
    ExpiryConfirmed (store.play steps).1 (store.play steps).2 := by
  apply play_induction
  · exact .of_absent hvalid (habsent expiryKey (by decide))
  · intro events last h step _
    exact h.take step

/-- Against a storage that may refuse any access of any call, every session given back was
confirmed by the registry less than the time to live ago, after the last clear that succeeded. -/
theorem get_confirmed (store : SessionStore) (hvalid : store.now.IsValid)
    (habsent : ∀ key ∈ keys, store.storage.value? key = none) (steps : List Step)
    (refuses : Storage.Access → Option String) (session : Session)
    (hget : ((store.play steps).2.take ⟨.get, refuses⟩).1.result =
      .ok (.session (some session))) :
    ∃ time, ConfirmedAt (store.play steps).1 time ∧
      (store.play steps).2.now.before (time.add store.ttl) = true ∧
      session.expireAt = time.add store.ttl := by
  have hinv := ExpiryConfirmed.play store hvalid habsent steps
  have hload := Available.of_load (load_of_take_get _ hget)
  obtain ⟨text, hvalue, hstrict⟩ := hload.expiry
  obtain ⟨time, htime, hconfirmed, htext⟩ := hinv.expiry _ hvalue
  rw [play_ttl] at htext
  rw [Json.string.inj htext] at hstrict
  have hexpiry : session.expireAt = time.add store.ttl :=
    ((Instant.strict?_text _ _ (htime.add store.ttl)).mp hstrict).2
  refine ⟨time, hconfirmed, ?_, hexpiry⟩
  rw [← hexpiry]
  exact hload.unexpired

/-- A refresh at zero, half a minute, and a clear that the registry accepts but whose first removal
is refused. -/
private def refusedClear : List Step :=
  [⟨.refresh (.ok ⟨"Ada", "ada@example.org", ["staff"], none⟩), fun _ => none⟩,
    ⟨.advance (.ofSeconds 30), fun _ => none⟩,
    ⟨.clear (.ok true), fun access => if access = .remove nameKey then some "busy" else none⟩]

private def minuteStore : SessionStore :=
  ⟨.ofSeconds 60, ⟨0, 0⟩, {}⟩

theorem get_confirmed_refused_clear :
    minuteStore.now.IsValid ∧ (∀ key ∈ keys, minuteStore.storage.value? key = none) ∧
      ((minuteStore.play refusedClear).2.take ⟨.get, fun _ => none⟩).1.result =
        .ok (.session (some ⟨"Ada", "ada@example.org", ["staff"], ⟨60, 0⟩⟩)) ∧
      ∃ time, ConfirmedAt (minuteStore.play refusedClear).1 time ∧
        (minuteStore.play refusedClear).2.now.before (time.add minuteStore.ttl) = true ∧
        (⟨60, 0⟩ : Instant) = time.add minuteStore.ttl := by
  have hvalid : minuteStore.now.IsValid := by decide
  have habsent : ∀ key ∈ keys, minuteStore.storage.value? key = none := by decide
  have hget : ((minuteStore.play refusedClear).2.take ⟨.get, fun _ => none⟩).1.result =
      .ok (.session (some ⟨"Ada", "ada@example.org", ["staff"], ⟨60, 0⟩⟩)) := by
    decide +kernel
  exact ⟨hvalid, habsent, hget, get_confirmed minuteStore hvalid habsent refusedClear _ _ hget⟩

end RegistryConsole.SessionStore
