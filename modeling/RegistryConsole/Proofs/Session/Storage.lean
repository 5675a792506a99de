import RegistryConsole.Session.Snapshot
/-!
# Laws of session storages

What an access does to the value of each key. Writing and dropping leave every other key alone,
whether or not they are refused, and a storage that refuses nothing reads back what was written.
-/
namespace RegistryConsole

namespace Json

theorem lookup_cons_ite {α : Type} (key k : String) (v : α) (rest : List (String × α)) :
    ((k, v) :: rest).lookup key = if key = k then some v else rest.lookup key := by
  rw [List.lookup_cons]
  by_cases h : key = k
  · simp [h]
  · simp [h, beq_false_of_ne h]

theorem lookup_insert_self {α : Type} (key : String) (value : α) (members : List (String × α)) :
    (insert key value members).lookup key = some value := by
  induction members with
  | nil => simp [insert]
  | cons m rest ih =>
      obtain ⟨k, v⟩ := m
      by_cases hlt : key < k
      · simp [insert, hlt]
      · by_cases heq : key = k
        · simp [insert, heq]
        · simp [insert, hlt, heq, lookup_cons_ite, ih]

theorem lookup_insert_ne {α : Type} {key other : String} (h : other ≠ key) (value : α)
    (members : List (String × α)) :
    (insert key value members).lookup other = members.lookup other := by
  induction members with
  | nil => simp [insert, lookup_cons_ite, h]
  | cons m rest ih =>
      obtain ⟨k, v⟩ := m
      by_cases hlt : key < k
      · simp [insert, hlt, lookup_cons_ite, h]
      · by_cases heq : key = k
        · subst heq
          simp [insert, lookup_cons_ite, h]
        · simp [insert, hlt, heq, lookup_cons_ite, ih]

theorem lookup_filter_self {α : Type} (key : String) (members : List (String × α)) :
    (members.filter (·.1 ≠ key)).lookup key = none := by
  rw [List.lookup_eq_none_iff]
  intro m hm
  have hne : m.1 ≠ key := by simpa using (List.mem_filter.mp hm).2
  simpa using hne.symm

theorem lookup_filter_ne {α : Type} {key other : String} (h : other ≠ key)
    (members : List (String × α)) :
    (members.filter (·.1 ≠ key)).lookup other = members.lookup other := by
  induction members with
  | nil => rfl
  | cons m rest ih =>
      obtain ⟨k, v⟩ := m
      by_cases hk : k = key
      · rw [List.filter_cons_of_neg (by simp [hk]), ih, lookup_cons_ite, if_neg (hk ▸ h)]
      · rw [List.filter_cons_of_pos (by simp [hk]), lookup_cons_ite, lookup_cons_ite, ih]

theorem eq_of_same_string {v : Json} {text : String} (h : v.same (.string text) = true) :
    v = .string text := by
  cases v <;> simp_all [same]

end Json

namespace Storage

variable {s s' : Storage} {key other text : String}

theorem textOf_eq_ok {v : Json} : textOf v = .ok text ↔ v = .string text := by
  cases v <;> simp [textOf, Json.decodeString, Json.wrongType]

@[simp] theorem put_refuses (value : Json) : (s.put key value).refuses = s.refuses := by
  rw [put]
  split <;> rfl

@[simp] theorem erase_refuses : (s.erase key).refuses = s.refuses := rfl

theorem value?_put_self : (s.put key (.string text)).value? key = some (.string text) := by
  rw [put]
  split
  next h =>
    obtain ⟨v, hv, hsame⟩ := (Option.any_eq_true _ _).mp h
    rw [hv, Json.eq_of_same_string hsame]
  next => exact Json.lookup_insert_self _ _ _

theorem value?_put_ne (h : other ≠ key) (value : Json) :
    (s.put key value).value? other = s.value? other := by
  rw [put]
  split
  · rfl
  · exact Json.lookup_insert_ne h _ _

theorem value?_erase_self : (s.erase key).value? key = none :=
  Json.lookup_filter_self key s.items

theorem value?_erase_ne (h : other ≠ key) : (s.erase key).value? other = s.value? other :=
  Json.lookup_filter_ne h s.items

theorem value?_of_get (h : s.get key = .ok (some text)) :
    s.value? key = some (.string text) := by
  rw [get] at h
  split at h
  · cases h
  · split at h
    · cases h
    next v hv =>
      cases htext : textOf v with
      | error e => simp [htext, Except.map] at h
      | ok t =>
          have ht : t = text := by simpa [htext, Except.map] using h
          rw [hv, textOf_eq_ok.mp htext, ht]

theorem set_cases (s : Storage) (key text : String) :
    (∃ e, s.set key text = (.error e, s)) ∨
      s.set key text = (.ok (), s.put key (.string text)) := by
  rw [set]
  split
  · exact .inl ⟨_, rfl⟩
  · exact .inr rfl

/-- A removal is refused and changes nothing, or drops the item; one that is no text is dropped
with an error. -/
theorem remove_cases (s : Storage) (key : String) :
    (∃ e, s.remove key = (.error e, s)) ∨ (∃ e, s.remove key = (.error e, s.erase key)) ∨
      s.remove key = (.ok (), s.erase key) := by
  rw [remove]
  split
  · exact .inl ⟨_, rfl⟩
  · split
    · exact .inr (.inl ⟨_, rfl⟩)
    · exact .inr (.inr rfl)

@[simp] theorem setAll_refuses (s : Storage) (items : List (String × String)) :
    (s.setAll items).2.refuses = s.refuses := by
  induction items generalizing s with
  | nil => rfl
  | cons item rest ih =>
      obtain ⟨k, t⟩ := item
      rw [setAll]
      obtain ⟨e, h⟩ | h := set_cases s k t
      · rw [h]
      · rw [h]
        dsimp only
        rw [ih, put_refuses]

@[simp] theorem removeAll_refuses (s : Storage) (keys : List String) :
    (s.removeAll keys).2.refuses = s.refuses := by
  induction keys generalizing s with
  | nil => rfl
  | cons k rest ih =>
      rw [removeAll]
      obtain ⟨e, h⟩ | ⟨e, h⟩ | h := remove_cases s k
      · rw [h]
      · rw [h]
        rfl
      · rw [h]
        dsimp only
        rw [ih, erase_refuses]

theorem value?_setAll (s : Storage) (items : List (String × String)) (key : String) :
    (s.setAll items).2.value? key = s.value? key ∨
      ∃ text, (key, text) ∈ items ∧ (s.setAll items).2.value? key = some (.string text) := by
  induction items generalizing s with
  | nil => exact .inl rfl
  | cons item rest ih =>
      obtain ⟨k, t⟩ := item
      rw [setAll]
      obtain ⟨e, h⟩ | h := set_cases s k t
      · rw [h]
        exact .inl rfl
      · rw [h]
        dsimp only
        obtain hsame | ⟨text, hmem, htext⟩ := ih (s.put k (.string t))
        · by_cases hk : key = k
          · subst hk
            exact .inr ⟨t, List.mem_cons_self, by rw [hsame, value?_put_self]⟩
          · exact .inl (by rw [hsame, value?_put_ne hk])
        · exact .inr ⟨text, List.mem_cons_of_mem _ hmem, htext⟩

theorem value?_setAll_ok (s : Storage) (items : List (String × String))
    (hkeys : (items.map Prod.fst).Nodup) (hok : (s.setAll items).1 = .ok ()) :
    ∀ item ∈ items, (s.setAll items).2.value? item.1 = some (.string item.2) := by
  induction items generalizing s with
  | nil => simp
  | cons item rest ih =>
      obtain ⟨k, t⟩ := item
      rw [List.map_cons, List.nodup_cons] at hkeys
      rw [setAll] at hok ⊢
      obtain ⟨e, h⟩ | h := set_cases s k t
      · rw [h] at hok
        cases hok
      · rw [h] at hok ⊢
        intro item hmem
        rcases List.mem_cons.mp hmem with rfl | hmem
        · obtain hsame | ⟨text, htext, -⟩ := value?_setAll (s.put k (.string t)) rest k
          · dsimp only
            rw [hsame, value?_put_self]
          · exact absurd (List.mem_map_of_mem htext) hkeys.1
        · exact ih _ hkeys.2 hok item hmem

/-- Until every write has succeeded, the last key is left alone. -/
theorem value?_setAll_last (s : Storage) (items : List (String × String))
    (last : String × String) (hlast : last.1 ∉ items.map Prod.fst)
    (hfailed : (s.setAll (items ++ [last])).1 ≠ .ok ()) :
    (s.setAll (items ++ [last])).2.value? last.1 = s.value? last.1 := by
  induction items generalizing s with
  | nil =>
      rw [List.nil_append, setAll] at hfailed ⊢
      obtain ⟨e, h⟩ | h := set_cases s last.1 last.2
      · rw [h]
      · rw [h] at hfailed
        exact absurd rfl hfailed
  | cons item rest ih =>
      obtain ⟨k, t⟩ := item
      rw [List.map_cons, List.mem_cons, not_or] at hlast
      rw [List.cons_append, setAll] at hfailed ⊢
      obtain ⟨e, h⟩ | h := set_cases s k t
      · rw [h]
      · rw [h] at hfailed ⊢
        exact (ih _ hlast.2 hfailed).trans (value?_put_ne hlast.1 (.string t))

theorem value?_removeAll (s : Storage) (keys : List String) (key : String) :
    (s.removeAll keys).2.value? key = s.value? key ∨
      key ∈ keys ∧ (s.removeAll keys).2.value? key = none := by
  induction keys generalizing s with
  | nil => exact .inl rfl
  | cons k rest ih =>
      have herase : (s.erase k).value? key = s.value? key ∨
          key ∈ k :: rest ∧ (s.erase k).value? key = none := by
        by_cases hk : key = k
        · subst hk
          exact .inr ⟨List.mem_cons_self, value?_erase_self⟩
        · exact .inl (value?_erase_ne hk)
      rw [removeAll]
      obtain ⟨e, h⟩ | ⟨e, h⟩ | h := remove_cases s k
      · rw [h]
        exact .inl rfl
      · rw [h]
        exact herase
      · rw [h]
        dsimp only
        obtain hsame | ⟨hmem, hnone⟩ := ih (s.erase k)
        · rw [hsame]
          exact herase
        · exact .inr ⟨List.mem_cons_of_mem _ hmem, hnone⟩

theorem value?_removeAll_ok (s : Storage) (keys : List String)
    (hok : (s.removeAll keys).1 = .ok ()) (key : String) (hmem : key ∈ keys) :
    (s.removeAll keys).2.value? key = none := by
  induction keys generalizing s with
  | nil => cases hmem
  | cons k rest ih =>
      rw [removeAll] at hok ⊢
      obtain ⟨e, h⟩ | ⟨e, h⟩ | h := remove_cases s k
      · rw [h] at hok
        cases hok
      · rw [h] at hok
        cases hok
      · rw [h] at hok ⊢
        dsimp only at hok ⊢
        rcases List.mem_cons.mp hmem with rfl | hrest
        · obtain hsame | ⟨-, hnone⟩ := value?_removeAll (s.erase key) rest key
          · rw [hsame, value?_erase_self]
          · exact hnone
        · exact ih (s.erase k) hok hrest

/-- No access is refused. -/
def IsOpen (s : Storage) : Prop :=
  ∀ access, s.refuses access = none

theorem get_of_isOpen (hopen : s.IsOpen) (key : String) :
    s.get key = match s.value? key with
      | none => .ok none
      | some v => (textOf v).map some := by
  have hget : s.refuses (.get key) = none := hopen _
  cases hvalue : s.value? key with
  | none => simp only [get, hget, hvalue]
  | some v => simp only [get, hget, hvalue]

theorem setAll_of_isOpen (hopen : s.IsOpen) (items : List (String × String))
    (hkeys : (items.map Prod.fst).Nodup) :
    (s.setAll items).1 = .ok () ∧
      ∀ item ∈ items, (s.setAll items).2.value? item.1 = some (.string item.2) := by
  have hok : (s.setAll items).1 = .ok () := by
    clear hkeys
    induction items generalizing s with
    | nil => rfl
    | cons item rest ih =>
        obtain ⟨k, t⟩ := item
        have hset : s.set k t = (.ok (), s.put k (.string t)) := by
          rw [set, hopen]
        rw [setAll, hset]
        refine ih (s := s.put k (.string t)) ?_
        intro access
        rw [put_refuses, hopen]
  exact ⟨hok, value?_setAll_ok s items hkeys hok⟩

theorem removeAll_of_isOpen (hopen : s.IsOpen) (keys : List String)
    (htexts : ∀ key ∈ keys, s.value? key = none ∨ ∃ text, s.value? key = some (.string text)) :
    (s.removeAll keys).1 = .ok () := by
  induction keys generalizing s with
  | nil => rfl
  | cons k rest ih =>
      have hremove : s.remove k = (.ok (), s.erase k) := by
        rw [remove, hopen]
        obtain h | ⟨text, h⟩ := htexts k List.mem_cons_self
        · rw [h]
          rfl
        · rw [h]
          rfl
      rw [removeAll, hremove]
      refine ih (s := s.erase k) hopen ?_
      intro key hmem
      by_cases hk : key = k
      · subst hk
        exact .inl value?_erase_self
      · rw [value?_erase_ne hk]
        exact htexts key (List.mem_cons_of_mem _ hmem)

/-- If the later storage counts as unchanged, so does the earlier one, and it holds the same. -/
def Tracks (s s' : Storage) : Prop :=
  s'.changed = false → s.changed = false ∧ s'.items = s.items

theorem Tracks.refl (s : Storage) : s.Tracks s :=
  fun h => ⟨h, rfl⟩

theorem Tracks.trans {s s' s'' : Storage} (h : s.Tracks s') (h' : s'.Tracks s'') :
    s.Tracks s'' := by
  intro hchanged
  obtain ⟨hchanged', hitems'⟩ := h' hchanged
  obtain ⟨hchanged'', hitems⟩ := h hchanged'
  exact ⟨hchanged'', hitems'.trans hitems⟩

theorem put_tracks (s : Storage) (key : String) (value : Json) : s.Tracks (s.put key value) := by
  rw [put]
  split
  · exact .refl s
  · intro h
    cases h

theorem erase_tracks (s : Storage) (key : String) : s.Tracks (s.erase key) := by
  intro h
  cases h

theorem setAll_tracks (s : Storage) (items : List (String × String)) :
    s.Tracks (s.setAll items).2 := by
  induction items generalizing s with
  | nil => exact .refl s
  | cons item rest ih =>
      obtain ⟨k, t⟩ := item
      rw [setAll]
      obtain ⟨e, h⟩ | h := set_cases s k t
      · rw [h]
        exact .refl s
      · rw [h]
        exact (put_tracks s k (.string t)).trans (ih _)

theorem removeAll_tracks (s : Storage) (keys : List String) :
    s.Tracks (s.removeAll keys).2 := by
  induction keys generalizing s with
  | nil => exact .refl s
  | cons k rest ih =>
      rw [removeAll]
      obtain ⟨e, h⟩ | ⟨e, h⟩ | h := remove_cases s k
      · rw [h]
        exact .refl s
      · rw [h]
        exact erase_tracks s k
      · rw [h]
        exact (erase_tracks s k).trans (ih _)

end Storage

end RegistryConsole
