import RegistryConsole.Json.Basic
import Mathlib.Data.List.Perm.Basic
import Mathlib.Data.String.Basic
/-!
# Members in order

Putting members in order keeps each of them if no two have one key (`sortMembers_perm`), and there
is only one order (`sortMembers_eq_of_perm`). What holds of a value and of all values in it is
`Everywhere`; values that were read or built have their members in order everywhere.
-/
namespace RegistryConsole.Json

variable {α : Type} {p : Json → Prop}

/-- Strictly increasing keys. -/
def Sorted (members : List (String × α)) : Prop :=
  members.Pairwise fun a b => a.1 < b.1

instance (members : List (String × α)) : Decidable (Sorted members) :=
  inferInstanceAs (Decidable (members.Pairwise _))

theorem mem_insert {key : String} {value : α} {members : List (String × α)} {m : String × α}
    (h : m ∈ insert key value members) : m = (key, value) ∨ m ∈ members := by
  induction members with
  | nil => simpa [insert] using h
  | cons head rest ih =>
      obtain ⟨k, v⟩ := head
      rw [insert] at h
      split at h
      · exact List.mem_cons.mp h
      · split at h
        · exact (List.mem_cons.mp h).imp_right (List.mem_cons_of_mem _)
        · obtain rfl | h := List.mem_cons.mp h
          · exact .inr List.mem_cons_self
          · exact (ih h).imp_right (List.mem_cons_of_mem _)

theorem insert_sorted (key : String) (value : α) {members : List (String × α)}
    (h : Sorted members) : Sorted (insert key value members) := by
  induction members with
  | nil => exact List.pairwise_singleton _ _
  | cons head rest ih =>
      obtain ⟨k, v⟩ := head
      obtain ⟨hhead, hrest⟩ := List.pairwise_cons.mp h
      rw [insert]
      split
      next hlt =>
        refine List.pairwise_cons.mpr ⟨fun m hm => ?_, h⟩
        obtain rfl | hm := List.mem_cons.mp hm
        · exact hlt
        · exact hlt.trans (hhead m hm)
      next hle =>
        split
        next heq => exact List.pairwise_cons.mpr ⟨fun m hm => heq ▸ hhead m hm, hrest⟩
        next hne =>
          have hlt : k < key := lt_of_le_of_ne (not_lt.mp hle) (Ne.symm hne)
          refine List.pairwise_cons.mpr ⟨fun m hm => ?_, ih hrest⟩
          obtain rfl | hm := mem_insert hm
          · exact hlt
          · exact hhead m hm

theorem insert_perm {key : String} (value : α) {members : List (String × α)}
    (h : ∀ m ∈ members, m.1 ≠ key) : (insert key value members).Perm ((key, value) :: members) := by
  induction members with
  | nil => exact .refl _
  | cons head rest ih =>
      obtain ⟨k, v⟩ := head
      obtain ⟨hhead, hrest⟩ := List.forall_mem_cons.mp h
      rw [insert]
      split
      · exact .refl _
      · rw [if_neg (Ne.symm hhead)]
        exact ((ih hrest).cons _).trans (.swap _ _ _)

private theorem foldl_insert_sorted (members : List (String × α)) {sorted : List (String × α)}
    (h : Sorted sorted) : Sorted (members.foldl (fun acc m => insert m.1 m.2 acc) sorted) := by
  induction members generalizing sorted with
  | nil => exact h
  | cons m rest ih => exact ih (insert_sorted _ _ h)

theorem sortMembers_sorted (members : List (String × α)) : Sorted (sortMembers members) := by
  rw [sortMembers]
  exact foldl_insert_sorted members .nil

private theorem mem_foldl_insert {members sorted : List (String × α)} {m : String × α}
    (h : m ∈ members.foldl (fun acc m => insert m.1 m.2 acc) sorted) :
    m ∈ sorted ∨ m ∈ members := by
  induction members generalizing sorted with
  | nil => exact .inl h
  | cons head rest ih =>
      obtain h | h := ih h
      · obtain rfl | h := mem_insert h
        · exact .inr List.mem_cons_self
        · exact .inl h
      · exact .inr (List.mem_cons_of_mem _ h)

theorem mem_of_mem_sortMembers {members : List (String × α)} {m : String × α}
    (h : m ∈ sortMembers members) : m ∈ members := by
  rw [sortMembers] at h
  exact (mem_foldl_insert h).resolve_left List.not_mem_nil

private theorem foldl_insert_perm {members sorted : List (String × α)}
    (h : ((sorted ++ members).map Prod.fst).Nodup) :
    (members.foldl (fun acc m => insert m.1 m.2 acc) sorted).Perm (sorted ++ members) := by
  induction members generalizing sorted with
  | nil => rw [List.append_nil, List.foldl_nil]
  | cons m rest ih =>
      have hmiddle : (sorted ++ m :: rest).Perm (m :: sorted ++ rest) := List.perm_middle
      have hnodup := (hmiddle.map Prod.fst).nodup h
      have hnew : ∀ n ∈ sorted, n.1 ≠ m.1 := by
        intro n hn heq
        refine (List.nodup_cons.mp hnodup).1 ?_
        rw [← heq]
        exact List.mem_map_of_mem (List.mem_append_left _ hn)
      have hinsert : (insert m.1 m.2 sorted ++ rest).Perm (m :: sorted ++ rest) :=
        (insert_perm m.2 hnew).append_right rest
      have hrest := ih ((hinsert.map Prod.fst).symm.nodup hnodup)
      exact (hrest.trans hinsert).trans hmiddle.symm

theorem sortMembers_perm {members : List (String × α)} (h : (members.map Prod.fst).Nodup) :
    (sortMembers members).Perm members := by
  rw [sortMembers]
  exact foldl_insert_perm h

theorem Sorted.nodup {members : List (String × α)} (h : Sorted members) :
    (members.map Prod.fst).Nodup :=
  List.pairwise_map.mpr (h.imp fun hlt => hlt.ne)

/-- There is one order of members. -/
theorem Sorted.eq_of_perm {members members' : List (String × α)} (h : Sorted members)
    (h' : Sorted members') (hperm : members.Perm members') : members = members' :=
  List.Perm.eq_of_pairwise (fun _ _ _ _ hab hba => absurd hba hab.asymm) h h' hperm

theorem sortMembers_eq_of_perm {members members' : List (String × α)} (h : Sorted members')
    (hperm : members.Perm members') : sortMembers members = members' :=
  (sortMembers_sorted members).eq_of_perm h
    ((sortMembers_perm ((hperm.map Prod.fst).symm.nodup h.nodup)).trans hperm)

/-- A value that holds no others. -/
def IsScalar : Json → Prop
  | .array _ | .object _ => False
  | _ => True

theorem inductionOn {motive : Json → Prop} (v : Json) (scalar : ∀ v, IsScalar v → motive v)
    (array : ∀ items, (∀ v ∈ items, motive v) → motive (.array items))
    (object : ∀ members, (∀ m ∈ members, motive m.2) → motive (.object members)) : motive v :=
  match v with
  | .null => scalar .null True.intro
  | .bool b => scalar (.bool b) True.intro
  | .number n => scalar (.number n) True.intro
  | .string s => scalar (.string s) True.intro
  | .array items => array items fun v _ => inductionOn v scalar array object
  | .object members => object members fun m _ => inductionOn m.2 scalar array object
termination_by sizeOf v
decreasing_by
  · have := List.sizeOf_lt_of_mem ‹v ∈ items›
    simp only [Json.array.sizeOf_spec]
    omega
  · have := List.sizeOf_lt_of_mem ‹m ∈ members›
    obtain ⟨k, w⟩ := m
    simp only [Json.object.sizeOf_spec, Prod.mk.sizeOf_spec] at *
    omega

/-- A value is itself or anywhere in an array or an object. -/
inductive Within (w : Json) : Json → Prop where
  | self : Within w w
  | item {items : List Json} {v : Json} (hmem : v ∈ items) (h : Within w v) :
      Within w (.array items)
  | member {members : List (String × Json)} {m : String × Json} (hmem : m ∈ members)
      (h : Within w m.2) : Within w (.object members)

/-- A property of a value and of every value in it. -/
def Everywhere (p : Json → Prop) (v : Json) : Prop :=
  ∀ w, Within w v → p w

theorem everywhere_array {items : List Json} :
    Everywhere p (.array items) ↔ p (.array items) ∧ ∀ v ∈ items, Everywhere p v := by
  constructor
  · intro h
    exact ⟨h _ .self, fun v hv w hw => h w (.item hv hw)⟩
  · rintro ⟨hself, hitems⟩ w hw
    cases hw with
    | self => exact hself
    | item hmem hw => exact hitems _ hmem w hw

theorem everywhere_object {members : List (String × Json)} :
    Everywhere p (.object members) ↔
      p (.object members) ∧ ∀ m ∈ members, Everywhere p m.2 := by
  constructor
  · intro h
    exact ⟨h _ .self, fun m hm w hw => h w (.member hm hw)⟩
  · rintro ⟨hself, hmembers⟩ w hw
    cases hw with
    | self => exact hself
    | member hmem hw => exact hmembers _ hmem w hw

theorem everywhere_of_isScalar {v : Json} (h : v.IsScalar) : Everywhere p v ↔ p v := by
  constructor
  · intro hp
    exact hp v .self
  · intro hv w hw
    cases hw with
    | self => exact hv
    | item | member => exact h.elim

@[simp] theorem everywhere_string {s : String} : Everywhere p (.string s) ↔ p (.string s) :=
  everywhere_of_isScalar True.intro

/-- The members of the value, if it is an object, are in order. -/
def InOrder : Json → Prop
  | .object members => Sorted members
  | _ => True

/-- The keys of the value, if it is an object, satisfy `q`. -/
def KeysMeet (q : String → Prop) : Json → Prop
  | .object members => ∀ m ∈ members, q m.1
  | _ => True

theorem inOrder_of_isScalar {v : Json} (h : v.IsScalar) : v.InOrder := by
  cases v with
  | array | object => exact h.elim
  | null | bool | number | string => exact True.intro

theorem keysMeet_of_isScalar {q : String → Prop} {v : Json} (h : v.IsScalar) : v.KeysMeet q := by
  cases v with
  | array | object => exact h.elim
  | null | bool | number | string => exact True.intro

/-- The members of every object are in order. -/
abbrev Ordered : Json → Prop := Everywhere InOrder

/-- Every key of every object satisfies `q`. -/
abbrev EachKey (q : String → Prop) : Json → Prop := Everywhere (KeysMeet q)

theorem ordered_of_isScalar {v : Json} (h : v.IsScalar) : v.Ordered :=
  (everywhere_of_isScalar h).mpr (inOrder_of_isScalar h)

theorem eachKey_of_isScalar {q : String → Prop} {v : Json} (h : v.IsScalar) : v.EachKey q :=
  (everywhere_of_isScalar h).mpr (keysMeet_of_isScalar h)

theorem ofMembers_ordered {members : List (String × Json)} (h : ∀ m ∈ members, m.2.Ordered) :
    (ofMembers members).Ordered :=
  everywhere_object.mpr
    ⟨sortMembers_sorted members, fun m hm => h m (mem_of_mem_sortMembers hm)⟩

theorem ofMembers_eachKey {q : String → Prop} {members : List (String × Json)}
    (h : ∀ m ∈ members, q m.1 ∧ m.2.EachKey q) : (ofMembers members).EachKey q :=
  everywhere_object.mpr
    ⟨fun m hm => (h m (mem_of_mem_sortMembers hm)).1,
      fun m hm => (h m (mem_of_mem_sortMembers hm)).2⟩

end RegistryConsole.Json
