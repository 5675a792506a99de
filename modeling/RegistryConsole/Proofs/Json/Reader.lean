import RegistryConsole.Json.Printer
import RegistryConsole.Json.Reader
import RegistryConsole.Proofs.Json.Members
import RegistryConsole.Proofs.Text.Utf8
import Mathlib.Tactic.IntervalCases
/-!
# Reading JSON back

A value without numbers is read back from its text (`ofBytes?_text`), if it nests no deeper than is
read at all. What follows a value in a text is left over, so items and members are read one by one.
Whatever is read has its members in order (`ofBytes?_ordered`).
-/
namespace RegistryConsole.Json

open Text

/-- A value without numbers, its members in order and its arrays and objects at most `depth`
deep. -/
inductive Textual : Nat → Json → Prop where
  | null {depth : Nat} : Textual depth .null
  | bool {depth : Nat} (b : Bool) : Textual depth (.bool b)
  | string {depth : Nat} (s : String) : Textual depth (.string s)
  | array {depth : Nat} {items : List Json} (h : ∀ v ∈ items, Textual depth v) :
      Textual (depth + 1) (.array items)
  | object {depth : Nat} {members : List (String × Json)} (hsorted : Sorted members)
      (h : ∀ m ∈ members, Textual depth m.2) : Textual (depth + 1) (.object members)

theorem Textual.ordered {depth : Nat} {v : Json} (h : Textual depth v) : v.Ordered := by
  induction h with
  | null | bool | string => exact ordered_of_isScalar True.intro
  | array _ ih => exact everywhere_array.mpr ⟨True.intro, ih⟩
  | object hsorted _ ih => exact everywhere_object.mpr ⟨hsorted, ih⟩

theorem Textual.ofMembers {depth : Nat} {members : List (String × Json)}
    (h : ∀ m ∈ members, Textual depth m.2) : Textual (depth + 1) (ofMembers members) :=
  .object (sortMembers_sorted members) fun m hm => h m (mem_of_mem_sortMembers hm)

theorem ofMembers_of_sorted {members : List (String × Json)} (h : Sorted members) :
    ofMembers members = .object members :=
  congrArg Json.object (sortMembers_eq_of_perm h (.refl _))

private theorem readNumbered_hexPadded {n : Nat} (hn : n < 0x20) (rest : List Char) :
    readNumbered (hexPadded 4 n ++ rest) = some (Char.ofNat n, rest) := by
  interval_cases n <;> rfl

theorem readQuoted_escapeChar (fuel : Nat) (acc : List Char) (c : Char) (rest : List Char) :
    readQuoted (fuel + 1) acc (escapeChar c ++ rest) = readQuoted fuel (c :: acc) rest := by
  by_cases hshort : c ∈ ['"', '\\', '\n', '\r', '\t', '\x08', '\x0c']
  · simp only [List.mem_cons, List.not_mem_nil, or_false] at hshort
    rcases hshort with rfl | rfl | rfl | rfl | rfl | rfl | rfl <;> rfl
  · simp only [List.mem_cons, List.not_mem_nil, or_false, not_or] at hshort
    obtain ⟨hquote, hslash, hnewline, hreturn, htab, hback, hfeed⟩ := hshort
    unfold escapeChar
    rw [if_neg hquote, if_neg hslash, if_neg hnewline, if_neg hreturn, if_neg htab, if_neg hback,
      if_neg hfeed]
    split
    next hcontrol =>
      have hread : readEscape ('u' :: (hexPadded 4 c.toNat ++ rest)) = some (c, rest) := by
        rw [readEscape, readNumbered_hexPadded hcontrol, Char.ofNat_toNat]
      simp only [List.cons_append, List.nil_append, readQuoted, hread]
    next hplain =>
      rw [List.singleton_append, readQuoted, if_neg hplain]
      · exact hquote
      · exact hslash

theorem readQuoted_flatMap (fuel : Nat) (acc s rest : List Char) (hfuel : s.length < fuel) :
    readQuoted fuel acc (s.flatMap escapeChar ++ '"' :: rest) =
      some (String.ofList (acc.reverse ++ s), rest) := by
  induction s generalizing fuel acc with
  | nil =>
      obtain ⟨fuel, rfl⟩ : ∃ k, fuel = k + 1 := ⟨fuel - 1, by simp at hfuel; omega⟩
      simp only [List.flatMap_nil, List.nil_append, readQuoted, List.append_nil]
  | cons c s ih =>
      obtain ⟨fuel, rfl⟩ : ∃ k, fuel = k + 1 := ⟨fuel - 1, by simp at hfuel; omega⟩
      rw [List.flatMap_cons, List.append_assoc, readQuoted_escapeChar,
        ih fuel (c :: acc) (by simpa using hfuel), List.reverse_cons, List.append_assoc,
        List.singleton_append]

theorem length_le_flatMap_escapeChar (s : List Char) :
    s.length ≤ (s.flatMap escapeChar).length := by
  induction s with
  | nil => exact Nat.zero_le _
  | cons c s ih =>
      have hpos : 0 < (escapeChar c).length := by
        unfold escapeChar
        split_ifs <;> simp
      rw [List.flatMap_cons, List.length_append, List.length_cons]
      omega

/-- The text between the quotes, read with the length of what is left as fuel. -/
theorem readQuoted_quoted (s : String) (rest : List Char) :
    ∃ input, quoted s ++ rest = '"' :: input ∧
      readQuoted (input.length + 1) [] input = some (s, rest) := by
  refine ⟨s.toList.flatMap escapeChar ++ '"' :: rest, by simp [quoted], ?_⟩
  rw [readQuoted_flatMap _ [] s.toList rest, List.reverse_nil, List.nil_append,
    String.ofList_toList]
  have := length_le_flatMap_escapeChar s.toList
  simp only [List.length_append, List.length_cons]
  omega

/-- How the text of a value may begin. -/
def StartsValue (s : List Char) : Prop :=
  ∃ c rest, s = c :: rest ∧ c ∉ [' ', '\n', '\t', '\r', ']', '\x7d']

theorem StartsValue.append {s : List Char} (h : StartsValue s) (rest : List Char) :
    StartsValue (s ++ rest) := by
  obtain ⟨c, tail, rfl, hc⟩ := h
  exact ⟨c, tail ++ rest, rfl, hc⟩

theorem StartsValue.skipBlanks {s : List Char} (h : StartsValue s) : skipBlanks s = s := by
  obtain ⟨c, rest, rfl, hc⟩ := h
  simp only [List.mem_cons, List.not_mem_nil, or_false, not_or] at hc
  simp [Json.skipBlanks, hc]

theorem Textual.startsValue {depth : Nat} {v : Json} (h : Textual depth v) :
    StartsValue (chars v) := by
  cases h with
  | null => exact ⟨'n', _, rfl, by decide⟩
  | bool b =>
      cases b with
      | true => exact ⟨'t', _, rfl, by decide⟩
      | false => exact ⟨'f', _, rfl, by decide⟩
  | string s => exact ⟨'"', _, rfl, by decide⟩
  | array h => exact ⟨'[', _, rfl, by decide⟩
  | object hsorted h => exact ⟨'\x7b', _, rfl, by decide⟩

/-- A value is read back in front of anything. -/
def ReadsBack (depth : Nat) (v : Json) : Prop :=
  ∀ fuel rest, (chars v).length ≤ fuel →
    readValue (fuel + 1) depth (chars v ++ rest) = some (v, rest)

theorem itemChars_cons {v : Json} {rest : List Json} (h : rest ≠ []) :
    itemChars (v :: rest) = chars v ++ ',' :: itemChars rest := by
  cases rest with
  | nil => exact absurd rfl h
  | cons w rest => rw [itemChars]; exact List.cons_ne_nil _ _

theorem memberChars_cons {k : String} {v : Json} {rest : List (String × Json)} (h : rest ≠ []) :
    memberChars ((k, v) :: rest) = quoted k ++ ':' :: chars v ++ ',' :: memberChars rest := by
  cases rest with
  | nil => exact absurd rfl h
  | cons w rest => rw [memberChars]; exact List.cons_ne_nil _ _

theorem readItems_itemChars {depth : Nat} {items : List Json} (hne : items ≠ [])
    (h : ∀ v ∈ items, ReadsBack depth v) (fuel : Nat) (rest : List Char)
    (hfuel : (itemChars items).length + 2 ≤ fuel) :
    readItems fuel depth (itemChars items ++ ']' :: rest) = some (items, rest) := by
  induction items generalizing fuel with
  | nil => exact absurd rfl hne
  | cons v items ih =>
      obtain ⟨fuel, rfl⟩ : ∃ k, fuel = k + 2 := ⟨fuel - 2, by omega⟩
      obtain ⟨hv, hitems⟩ := List.forall_mem_cons.mp h
      by_cases hlast : items = []
      · subst hlast
        rw [itemChars] at hfuel ⊢
        rw [readItems, hv fuel _ (by omega)]
        simp [skipBlanks]
      · rw [itemChars_cons hlast, List.length_append, List.length_cons] at hfuel
        rw [itemChars_cons hlast, List.append_assoc, List.cons_append, readItems,
          hv fuel _ (by omega)]
        simp [skipBlanks, ih hlast hitems (fuel + 1) (by omega)]

theorem readMembers_memberChars {depth : Nat} {members : List (String × Json)} (hne : members ≠ [])
    (h : ∀ m ∈ members, ReadsBack depth m.2) (fuel : Nat) (rest : List Char)
    (hfuel : (memberChars members).length + 2 ≤ fuel) :
    readMembers fuel depth (memberChars members ++ '\x7d' :: rest) = some (members, rest) := by
  induction members generalizing fuel with
  | nil => exact absurd rfl hne
  | cons m members ih =>
      obtain ⟨k, v⟩ := m
      obtain ⟨fuel, rfl⟩ : ∃ k, fuel = k + 2 := ⟨fuel - 2, by omega⟩
      obtain ⟨hv, hmembers⟩ := List.forall_mem_cons.mp h
      by_cases hlast : members = []
      · subst hlast
        rw [memberChars, List.length_append, List.length_cons] at hfuel
        obtain ⟨input, hinput, hread⟩ := readQuoted_quoted k (':' :: chars v ++ '\x7d' :: rest)
        rw [memberChars, List.append_assoc, hinput, readMembers]
        simp [skipBlanks, hread, hv fuel _ (show (chars v).length ≤ fuel by omega)]
      · rw [memberChars_cons hlast] at hfuel ⊢
        simp only [List.length_append, List.length_cons] at hfuel
        obtain ⟨input, hinput, hread⟩ := readQuoted_quoted k
          (':' :: chars v ++ ',' :: (memberChars members ++ '\x7d' :: rest))
        rw [List.append_assoc, List.append_assoc, List.cons_append, List.cons_append,
          ← List.cons_append, hinput, readMembers]
        simp [skipBlanks, hread, hv fuel _ (show (chars v).length ≤ fuel by omega),
          ih hlast hmembers (fuel + 1) (by omega)]

theorem readValue_array {input : List Char} (h : StartsValue input) (fuel depth : Nat) :
    readValue (fuel + 1) (depth + 1) ('[' :: input) =
      (readItems fuel depth input).map fun (items, rest) => (.array items, rest) := by
  have hskip := h.skipBlanks
  obtain ⟨c, rest, rfl, hc⟩ := h
  have hclose : c ≠ ']' := by
    rintro rfl
    exact hc (by decide)
  have hopen : skipBlanks ('[' :: c :: rest) = '[' :: c :: rest := by simp [skipBlanks]
  simp only [readValue, hopen, hskip]
  split
  next hbracket => exact absurd (List.cons.inj hbracket).1 hclose
  next => rfl

theorem readValue_object {input : List Char} (h : StartsValue input) (fuel depth : Nat) :
    readValue (fuel + 1) (depth + 1) ('\x7b' :: input) =
      (readMembers fuel depth input).map fun (members, rest) => (ofMembers members, rest) := by
  have hskip := h.skipBlanks
  obtain ⟨c, rest, rfl, hc⟩ := h
  have hclose : c ≠ '\x7d' := by
    rintro rfl
    exact hc (by decide)
  have hopen : skipBlanks ('\x7b' :: c :: rest) = '\x7b' :: c :: rest := by simp [skipBlanks]
  simp only [readValue, hopen, hskip]
  split
  next hbrace => exact absurd (List.cons.inj hbrace).1 hclose
  next => rfl

theorem Textual.itemChars_startsValue {depth : Nat} {items : List Json} (hne : items ≠ [])
    (h : ∀ v ∈ items, Textual depth v) : StartsValue (itemChars items) := by
  obtain _ | ⟨v, items⟩ := items
  · exact absurd rfl hne
  · have hv := (h v List.mem_cons_self).startsValue
    by_cases hlast : items = []
    · subst hlast
      exact hv
    · rw [itemChars_cons hlast]
      exact hv.append _

theorem memberChars_startsValue {members : List (String × Json)} (hne : members ≠ []) :
    StartsValue (memberChars members) := by
  obtain _ | ⟨⟨k, v⟩, members⟩ := members
  · exact absurd rfl hne
  · by_cases hlast : members = []
    · subst hlast
      exact ⟨'"', _, rfl, by decide⟩
    · rw [memberChars_cons hlast]
      exact ⟨'"', _, rfl, by decide⟩

theorem Textual.readsBack {depth : Nat} {v : Json} (h : Textual depth v) : ReadsBack depth v := by
  induction h with
  | null => exact fun fuel rest _ => by simp [chars, readValue, skipBlanks]
  | bool b => exact fun fuel rest _ => by cases b <;> simp [chars, readValue, skipBlanks]
  | string s =>
      intro fuel rest _
      obtain ⟨input, hinput, hread⟩ := readQuoted_quoted s rest
      rw [chars, hinput, readValue]
      simp [skipBlanks, hread]
  | @array depth items h ih =>
      intro fuel rest hfuel
      by_cases hne : items = []
      · subst hne
        simp [chars, itemChars, readValue, skipBlanks]
      · have htext : chars (.array items) ++ rest = '[' :: (itemChars items ++ ']' :: rest) := by
          simp [chars]
        rw [chars, List.length_append, List.length_cons, List.length_singleton] at hfuel
        rw [htext, readValue_array ((Textual.itemChars_startsValue hne h).append _),
          readItems_itemChars hne ih fuel rest (by omega), Option.map_some]
  | @object depth members hsorted h ih =>
      intro fuel rest hfuel
      by_cases hne : members = []
      · subst hne
        simp [chars, memberChars, readValue, skipBlanks]
      · have htext : chars (.object members) ++ rest =
            '\x7b' :: (memberChars members ++ '\x7d' :: rest) := by
          simp [chars]
        rw [chars, List.length_append, List.length_cons, List.length_singleton] at hfuel
        rw [htext, readValue_object ((memberChars_startsValue hne).append _),
          readMembers_memberChars hne ih fuel rest (by omega), Option.map_some]
        exact congrArg (fun value => some (value, rest)) (ofMembers_of_sorted hsorted)

theorem ofChars?_chars {v : Json} (h : Textual maxDepth v) : ofChars? (chars v) = some v := by
  have hread := h.readsBack (chars v).length [] (Nat.le_refl _)
  rw [List.append_nil] at hread
  rw [ofChars?, hread]
  rfl

theorem ofBytes?_text {v : Json} (h : Textual maxDepth v) :
    ofBytes? (Utf8.encode v.text) = some v := by
  rw [ofBytes?, Utf8.encode, text, String.toList_ofList, Utf8.decodeChars?_encodeChars,
    Option.bind_some, ofChars?_chars h]

/-- What the readers find with some fuel is in order. -/
structure ReadsOrdered (fuel : Nat) : Prop where
  value : ∀ {depth input v rest}, readValue fuel depth input = some (v, rest) → v.Ordered
  items : ∀ {depth input items rest}, readItems fuel depth input = some (items, rest) →
    ∀ v ∈ items, v.Ordered
  members : ∀ {depth input members rest}, readMembers fuel depth input = some (members, rest) →
    ∀ m ∈ members, m.2.Ordered

variable {fuel depth : Nat} {input rest : List Char}

theorem ReadsOrdered.value_succ (h : ReadsOrdered fuel) {v : Json}
    (hread : readValue (fuel + 1) depth input = some (v, rest)) : v.Ordered := by
  rw [readValue] at hread
  split at hread
  case h_1 | h_2 | h_3 =>
    cases hread
    exact ordered_of_isScalar True.intro
  case h_4 =>
    obtain ⟨s, -, heq⟩ := Option.map_eq_some_iff.mp hread
    cases heq
    exact ordered_of_isScalar True.intro
  case h_5 =>
    split at hread
    · cases hread
    · split at hread
      · cases hread
        exact everywhere_array.mpr ⟨True.intro, nofun⟩
      · obtain ⟨found, hitems, heq⟩ := Option.map_eq_some_iff.mp hread
        cases heq
        exact everywhere_array.mpr ⟨True.intro, h.items hitems⟩
  case h_6 =>
    split at hread
    · cases hread
    · split at hread
      · cases hread
        exact everywhere_object.mpr ⟨.nil, nofun⟩
      · obtain ⟨found, hmembers, heq⟩ := Option.map_eq_some_iff.mp hread
        cases heq
        exact ofMembers_ordered (h.members hmembers)
  case h_7 | h_8 =>
    obtain ⟨n, -, heq⟩ := Option.map_eq_some_iff.mp hread
    cases heq
    exact ordered_of_isScalar True.intro

theorem ReadsOrdered.items_succ (h : ReadsOrdered fuel) {items : List Json}
    (hread : readItems (fuel + 1) depth input = some (items, rest)) :
    ∀ v ∈ items, v.Ordered := by
  rw [readItems] at hread
  split at hread
  · cases hread
  next v rest' hv =>
    split at hread
    · cases hread
      exact List.forall_mem_singleton.mpr (h.value hv)
    · obtain ⟨found, hitems, heq⟩ := Option.map_eq_some_iff.mp hread
      cases heq
      exact List.forall_mem_cons.mpr ⟨h.value hv, h.items hitems⟩
    · cases hread

theorem ReadsOrdered.members_succ (h : ReadsOrdered fuel) {members : List (String × Json)}
    (hread : readMembers (fuel + 1) depth input = some (members, rest)) :
    ∀ m ∈ members, m.2.Ordered := by
  rw [readMembers] at hread
  split at hread
  · split at hread
    · cases hread
    · split at hread
      · split at hread
        · cases hread
        next v rest' hv =>
          split at hread
          · cases hread
            exact List.forall_mem_singleton.mpr (h.value hv)
          · obtain ⟨found, hmembers, heq⟩ := Option.map_eq_some_iff.mp hread
            cases heq
            exact List.forall_mem_cons.mpr ⟨h.value hv, h.members hmembers⟩
          · cases hread
      · cases hread
  · cases hread

theorem readsOrdered (fuel : Nat) : ReadsOrdered fuel := by
  induction fuel with
  | zero => exact ⟨nofun, nofun, nofun⟩
  | succ fuel ih => exact ⟨ih.value_succ, ih.items_succ, ih.members_succ⟩

theorem ofBytes?_ordered {bytes : List UInt8} {v : Json} (h : ofBytes? bytes = some v) :
    v.Ordered := by
  obtain ⟨input, -, hread⟩ := Option.bind_eq_some_iff.mp h
  rw [ofChars?] at hread
  split at hread
  next v' rest hv =>
    split at hread
    · cases hread
      exact (readsOrdered _).value hv
    · cases hread
  next => cases hread

end RegistryConsole.Json
