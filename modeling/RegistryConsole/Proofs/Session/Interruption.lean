import RegistryConsole.Proofs.Session.Snapshot
/-!
# Clears that are interrupted

A clear drops the items of a snapshot one after another and stops at the first removal that is
refused. The name goes first and no session is read without one, so a clear that drops anything
leaves no session behind, and what it has left over goes with the next clear that nothing refuses.
-/
namespace RegistryConsole

namespace Storage

/-- A storage of texts, as accesses write them. -/
def ofTexts (texts : List (String × String)) (refuses : Access → Option String) : Storage :=
  { items := texts.map fun (key, text) => (key, .string text), refuses }

/-- Only texts are kept. -/
def HoldsTexts (s : Storage) : Prop :=
  ∀ item ∈ s.items, ∃ text, item.2 = .string text

theorem ofTexts_holdsTexts (texts : List (String × String)) (refuses : Access → Option String) :
    (ofTexts texts refuses).HoldsTexts := by
  intro item hmem
  obtain ⟨⟨key, text⟩, -, rfl⟩ := List.mem_map.mp hmem
  exact ⟨text, rfl⟩

/-- Items without those of some keys. -/
def without (items : List (String × Json)) (keys : List String) : List (String × Json) :=
  items.filter (·.1 ∉ keys)

theorem without_nil (items : List (String × Json)) : without items [] = items :=
  List.filter_eq_self.mpr (by simp)

theorem without_cons (items : List (String × Json)) (key : String) (keys : List String) :
    without items (key :: keys) = without (items.filter (·.1 ≠ key)) keys := by
  rw [without, without, List.filter_filter]
  refine List.filter_congr fun item _ => ?_
  simp [Bool.and_comm]

theorem without_of_subset (items : List (String × Json)) {gone keys : List String}
    (h : gone ⊆ keys) : without (without items gone) keys = without items keys := by
  simp only [without, List.filter_filter]
  refine List.filter_congr fun item _ => ?_
  by_cases hmem : item.1 ∈ keys
  · simp [hmem]
  · have hgone : item.1 ∉ gone := fun hmem' => hmem (h hmem')
    simp [hmem, hgone]

theorem lookup_without {items : List (String × Json)} {key : String} {keys : List String}
    (h : key ∉ keys) : (without items keys).lookup key = items.lookup key := by
  induction keys generalizing items with
  | nil => rw [without_nil]
  | cons k keys ih =>
      rw [List.mem_cons, not_or] at h
      rw [without_cons, ih h.2, Json.lookup_filter_ne h.1]

variable {s s' : Storage}

theorem HoldsTexts.of_filter (h : s.HoldsTexts) {p : String × Json → Bool}
    (hitems : s'.items = s.items.filter p) : s'.HoldsTexts := by
  intro item hmem
  rw [hitems] at hmem
  exact h item ((List.mem_filter.mp hmem).1)

theorem remove_of_holdsTexts (h : s.HoldsTexts) {key : String}
    (hremove : s.refuses (.remove key) = none) : s.remove key = (.ok (), s.erase key) := by
  rw [remove, hremove]
  cases hvalue : s.value? key with
  | none => rfl
  | some value =>
      obtain ⟨before, later, hitems, -⟩ := List.lookup_eq_some_iff.mp hvalue
      obtain ⟨text, htext⟩ := h (key, value) (by rw [hitems]; simp)
      dsimp only at htext
      rw [htext]
      rfl

/-- What is left without the items of some keys. -/
def eraseAll (s : Storage) (keys : List String) : Storage :=
  keys.foldl erase s

theorem eraseAll_items (s : Storage) (keys : List String) :
    (s.eraseAll keys).items = without s.items keys := by
  induction keys generalizing s with
  | nil => exact (without_nil s.items).symm
  | cons key rest ih =>
      rw [without_cons]
      exact ih (s.erase key)

theorem removeAll_append (h : s.HoldsTexts) {before : List String}
    (hbefore : ∀ key ∈ before, s.refuses (.remove key) = none) (rest : List String) :
    s.removeAll (before ++ rest) = (s.eraseAll before).removeAll rest := by
  induction before generalizing s with
  | nil => rfl
  | cons key before ih =>
      rw [List.forall_mem_cons] at hbefore
      rw [List.cons_append, removeAll, remove_of_holdsTexts h hbefore.1]
      exact ih (h.of_filter rfl) hbefore.2

theorem eraseAll_refuses (s : Storage) (keys : List String) :
    (s.eraseAll keys).refuses = s.refuses := by
  induction keys generalizing s with
  | nil => rfl
  | cons key rest ih => exact (ih (s.erase key)).trans erase_refuses

theorem removeAll_of_removable (h : s.HoldsTexts) {keys : List String}
    (hkeys : ∀ key ∈ keys, s.refuses (.remove key) = none) :
    s.removeAll keys = (.ok (), s.eraseAll keys) := by
  have happend := removeAll_append h hkeys []
  rwa [List.append_nil] at happend

theorem removeAll_of_refused (h : s.HoldsTexts) {before later : List String} {key cause : String}
    (hbefore : ∀ key ∈ before, s.refuses (.remove key) = none)
    (hkey : s.refuses (.remove key) = some cause) :
    s.removeAll (before ++ key :: later) = (.error ⟨cause⟩, s.eraseAll before) := by
  rw [removeAll_append h hbefore, removeAll, remove, eraseAll_refuses, hkey]

theorem removeAll_items (s : Storage) (keys : List String) :
    ∃ gone, gone <+: keys ∧ (s.removeAll keys).2.items = without s.items gone := by
  induction keys generalizing s with
  | nil => exact ⟨[], List.nil_prefix, (without_nil s.items).symm⟩
  | cons key rest ih =>
      rw [removeAll]
      obtain ⟨e, h⟩ | ⟨e, h⟩ | h := remove_cases s key
      · refine ⟨[], List.nil_prefix, ?_⟩
        rw [h, without_nil]
      · refine ⟨[key], List.cons_prefix_cons.mpr ⟨rfl, List.nil_prefix⟩, ?_⟩
        rw [h, without_cons, without_nil]
        rfl
      · obtain ⟨gone, hprefix, hitems⟩ := ih (s.erase key)
        refine ⟨key :: gone, List.cons_prefix_cons.mpr ⟨rfl, hprefix⟩, ?_⟩
        rw [h, without_cons]
        exact hitems

end Storage

namespace Snapshot

variable {s : Storage}

theorem keys_eq : keys = nameKey :: [emailKey, groupsKey, expiryKey] := rfl

theorem clear_items (answer : Envelope Bool) (s : Storage) :
    ∃ gone, gone ⊆ keys ∧ (clear answer s).2.items = Storage.without s.items gone := by
  cases answer with
  | error message details =>
      exact ⟨[], List.nil_subset _, (Storage.without_nil s.items).symm⟩
  | ok data =>
      obtain ⟨gone, hprefix, hitems⟩ := s.removeAll_items keys
      exact ⟨gone, hprefix.subset, hitems⟩

theorem value?_clear (answer : Envelope Bool) (s : Storage) {key : String} (h : key ∉ keys) :
    (clear answer s).2.value? key = s.value? key := by
  obtain ⟨gone, hgone, hitems⟩ := clear_items answer s
  rw [Storage.value?, hitems, Storage.lookup_without fun hmem => h (hgone hmem)]
  rfl

theorem load_of_no_name {now : Instant} {found : Option Session} (hname : s.value? nameKey = none)
    (h : load now s = .ok found) : found = none := by
  cases found with
  | none => rfl
  | some session =>
      have havailable := (Available.of_load h).name
      rw [hname] at havailable
      cases havailable

/-- The name is the first to go: a clear leaves it only if it leaves everything. -/
theorem clear_name (h : s.HoldsTexts) (data : Bool) :
    (∃ cause, s.refuses (.remove nameKey) = some cause ∧
        clear (.ok data) s = (.error ⟨cause⟩, s)) ∨
      (clear (.ok data) s).2.value? nameKey = none := by
  cases hname : s.refuses (.remove nameKey) with
  | some cause =>
      refine .inl ⟨cause, rfl, ?_⟩
      rw [clear, keys_eq, Storage.removeAll, Storage.remove, hname]
  | none =>
      right
      rw [clear, keys_eq, Storage.removeAll, Storage.remove_of_holdsTexts h hname]
      dsimp only
      obtain hsame | ⟨-, hnone⟩ := Storage.value?_removeAll (s.erase nameKey)
        [emailKey, groupsKey, expiryKey] nameKey
      · rw [hsame, Storage.value?_erase_self]
      · exact hnone

theorem clear_completed {after : Storage} (h : s.HoldsTexts) {gone : List String}
    (hgone : gone ⊆ keys) (hitems : after.items = Storage.without s.items gone) (data : Bool)
    (hkeys : ∀ key ∈ keys, after.refuses (.remove key) = none) :
    (clear (.ok data) after).1 = .ok () ∧
      (clear (.ok data) after).2.items = Storage.without s.items keys := by
  rw [clear, Storage.removeAll_of_removable (h.of_filter hitems) hkeys]
  refine ⟨rfl, ?_⟩
  rw [Storage.eraseAll_items, hitems, Storage.without_of_subset _ hgone]

/-- A clear stops at the first removal that is refused. -/
theorem clear_of_refused (h : s.HoldsTexts) (data : Bool) {before later : List String}
    {key cause : String} (hkeys : keys = before ++ key :: later)
    (hbefore : ∀ key ∈ before, s.refuses (.remove key) = none)
    (hkey : s.refuses (.remove key) = some cause) :
    clear (.ok data) s = (.error ⟨cause⟩, s.eraseAll before) := by
  rw [clear, hkeys]
  exact Storage.removeAll_of_refused h hbefore hkey

theorem exists_ok {answer : Envelope Bool} (h : answer.isOk = true) :
    ∃ data, answer = .ok data := by
  cases answer with
  | ok data => exact ⟨data, rfl⟩
  | error message details => cases h

/-- Whatever a storage keeps and refuses: a clear that the registry did not accept changes nothing,
and one that it accepted drops the items of the snapshot in their order, up to the first removal
that is refused, whose failure it returns. No session is read afterwards, unless the removal of the
name was refused, which leaves everything. The items of other keys stay, and the next clear that
nothing refuses drops what has been left over. -/
theorem clear_interrupted (texts : List (String × String))
    (refuses : Storage.Access → Option String) (answer : Envelope Bool) :
    let s := Storage.ofTexts texts refuses
    let after := (clear answer s).2
    (answer.isOk = false → clear answer s = (.ok (), s)) ∧
    (answer.isOk = true → (∀ key ∈ keys, refuses (.remove key) = none) →
      (clear answer s).1 = .ok () ∧ after.items = Storage.without s.items keys) ∧
    (answer.isOk = true → ∀ before key later cause, keys = before ++ key :: later →
      (∀ key ∈ before, refuses (.remove key) = none) → refuses (.remove key) = some cause →
      (clear answer s).1 = .error ⟨cause⟩ ∧ after.items = Storage.without s.items before) ∧
    (answer.isOk = true →
      (∃ cause, refuses (.remove nameKey) = some cause ∧ clear answer s = (.error ⟨cause⟩, s)) ∨
      ∀ now refuses' found, load now { after with refuses := refuses' } = .ok found →
        found = none) ∧
    (∀ key ∉ keys, after.value? key = s.value? key) ∧
    ∀ data refuses', (∀ key ∈ keys, refuses' (.remove key) = none) →
      (clear (.ok data) { after with refuses := refuses' }).1 = .ok () ∧
      (clear (.ok data) { after with refuses := refuses' }).2.items =
        Storage.without s.items keys := by
  intro s after
  have htexts : s.HoldsTexts := Storage.ofTexts_holdsTexts texts refuses
  obtain ⟨gone, hgone, hitems⟩ := clear_items answer s
  refine ⟨?refused, ?whole, ?partly, ?unread, ?others, ?completed⟩
  case refused =>
    intro hok
    cases answer with
    | ok data => cases hok
    | error message details => rfl
  case whole =>
    intro hok hkeys
    obtain ⟨data, rfl⟩ := exists_ok hok
    exact clear_completed htexts (List.nil_subset _) (Storage.without_nil _).symm data hkeys
  case partly =>
    intro hok before key later cause hkeys hbefore hkey
    obtain ⟨data, rfl⟩ := exists_ok hok
    have hclear := clear_of_refused htexts data hkeys hbefore hkey
    dsimp only [after]
    rw [hclear]
    exact ⟨rfl, s.eraseAll_items before⟩
  case unread =>
    intro hok
    obtain ⟨data, rfl⟩ := exists_ok hok
    obtain hkept | hname := clear_name htexts data
    · exact .inl hkept
    · exact .inr fun now refuses' found => load_of_no_name hname
  case others => exact fun key => value?_clear answer s
  case completed =>
    intro data refuses' hkeys
    have hleft : ({ after with refuses := refuses' } : Storage).items =
        Storage.without s.items gone := hitems
    exact clear_completed htexts hgone hleft data hkeys

end Snapshot

end RegistryConsole
