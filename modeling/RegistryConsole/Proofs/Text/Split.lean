import RegistryConsole.Text.Split
/-!
# Laws of splitting

The parts of a text are what stands in it between two separators (`mem_split_iff`).
-/
namespace RegistryConsole.Text

theorem split_append (sep : Char) (a b : List Char) :
    split sep (a ++ sep :: b) = split sep a ++ split sep b := by
  induction a with
  | nil => simp [split]
  | cons c rest ih =>
      rw [List.cons_append, split, ih]
      by_cases hc : c = sep
      · simp [split, hc]
      · cases hrest : split sep rest with
        | nil => exact absurd hrest (split_ne_nil sep rest)
        | cons part parts => simp [split, hc, hrest]

theorem split_of_not_mem {sep : Char} {s : List Char} (h : sep ∉ s) : split sep s = [s] := by
  induction s with
  | nil => rfl
  | cons c rest ih =>
      simp only [List.mem_cons, not_or] at h
      rw [split, if_neg (Ne.symm h.1), ih h.2]

theorem join_cons_cons (sep : Char) (part next : List Char) (parts : List (List Char)) :
    join [sep] (part :: next :: parts) = part ++ sep :: join [sep] (next :: parts) :=
  List.append_assoc part [sep] _

theorem join_append (sep : Char) {parts parts' : List (List Char)} (h : parts ≠ [])
    (h' : parts' ≠ []) :
    join [sep] (parts ++ parts') = join [sep] parts ++ sep :: join [sep] parts' := by
  induction parts with
  | nil => exact absurd rfl h
  | cons part parts ih =>
      cases parts with
      | nil =>
          cases parts' with
          | nil => exact absurd rfl h'
          | cons next parts' => exact join_cons_cons sep part next parts'
      | cons next parts =>
          rw [List.cons_append, List.cons_append, join_cons_cons, join_cons_cons,
            ← List.cons_append, ih (List.cons_ne_nil _ _), List.append_assoc, List.cons_append]

theorem split_join {sep : Char} {parts : List (List Char)} (hne : parts ≠ [])
    (h : ∀ part ∈ parts, sep ∉ part) : split sep (join [sep] parts) = parts := by
  induction parts with
  | nil => exact absurd rfl hne
  | cons part parts ih =>
      rw [List.forall_mem_cons] at h
      cases parts with
      | nil => exact split_of_not_mem h.1
      | cons next parts =>
          rw [join_cons_cons, split_append, split_of_not_mem h.1, ih (List.cons_ne_nil _ _) h.2,
            List.singleton_append]

theorem map_join (f : Char → Char) (sep : Char) (parts : List (List Char)) :
    (join [sep] parts).map f = join [f sep] (parts.map (List.map f)) := by
  induction parts with
  | nil => rfl
  | cons part parts ih =>
      cases parts with
      | nil => rfl
      | cons next parts =>
          rw [join_cons_cons, List.map_append, List.map_cons, ih]
          exact (join_cons_cons (f sep) _ _ _).symm

theorem toList_intercalate (sep : Char) (parts : List String) :
    ((String.ofList [sep]).intercalate parts).toList = join [sep] (parts.map String.toList) := by
  induction parts with
  | nil => rfl
  | cons part parts ih =>
      cases parts with
      | nil => simp [join]
      | cons next parts =>
          rw [String.intercalate_cons_cons, String.toList_append, String.toList_append, ih,
            String.toList_ofList]
          rfl

theorem mem_join_iff {sep c : Char} {parts : List (List Char)} (hc : c ≠ sep) :
    c ∈ join [sep] parts ↔ ∃ part ∈ parts, c ∈ part := by
  induction parts with
  | nil => simp [join]
  | cons part parts ih =>
      cases parts with
      | nil => simp [join]
      | cons next parts =>
          rw [join_cons_cons, List.mem_append, List.mem_cons, ih]
          simp [hc]

theorem eq_or_mem_of_mem_join {sep c : Char} {parts : List (List Char)}
    (h : c ∈ join [sep] parts) : c = sep ∨ ∃ part ∈ parts, c ∈ part := by
  by_cases hc : c = sep
  · exact .inl hc
  · exact .inr ((mem_join_iff hc).mp h)

theorem cut_append_some {sep : Char} {s before after : List Char}
    (h : cut sep s = (before, some after)) (t : List Char) :
    cut sep (s ++ t) = (before, some (after ++ t)) := by
  induction s generalizing before with
  | nil => simp [cut] at h
  | cons c rest ih =>
      rw [List.cons_append, cut]
      rw [cut] at h
      split at h
      next hc =>
        obtain ⟨rfl, hafter⟩ := Prod.mk.inj h
        obtain rfl := Option.some.inj hafter
        rw [if_pos hc]
      next hc =>
        obtain ⟨rfl, hafter⟩ := Prod.mk.inj h
        rw [if_neg hc, ih (Prod.ext rfl hafter)]

theorem cut_append_none {sep : Char} {s before : List Char} (h : cut sep s = (before, none))
    (t : List Char) : cut sep (s ++ t) = (s ++ (cut sep t).1, (cut sep t).2) := by
  induction s generalizing before with
  | nil => rfl
  | cons c rest ih =>
      rw [List.cons_append, cut]
      rw [cut] at h
      split at h
      next hc => cases h
      next hc =>
        obtain ⟨rfl, hafter⟩ := Prod.mk.inj h
        rw [if_neg hc, ih (Prod.ext rfl hafter), List.cons_append]

theorem cut_append_fst (sep : Char) (s : List Char) :
    (∃ before, ∀ t, (cut sep (s ++ t)).1 = before) ∨
      ∀ t, (cut sep (s ++ t)).1 = s ++ (cut sep t).1 := by
  cases h : cut sep s with
  | mk before after =>
      cases after with
      | some after => exact .inl ⟨before, fun t => by rw [cut_append_some h]⟩
      | none => exact .inr fun t => by rw [cut_append_none h]

theorem cut_of_not_mem {sep : Char} {s : List Char} (h : sep ∉ s) : cut sep s = (s, none) := by
  induction s with
  | nil => rfl
  | cons c rest ih =>
      rw [List.mem_cons, not_or] at h
      rw [cut, if_neg (Ne.symm h.1), ih h.2]

theorem cut_sublist (sep : Char) (s : List Char) : (cut sep s).1.Sublist s := by
  induction s with
  | nil => exact .slnil
  | cons c rest ih =>
      rw [cut]
      split
      next => exact List.nil_sublist _
      next => exact ih.cons_cons c

theorem cut_eq_self_iff {sep : Char} {s : List Char} : (cut sep s).1 = s ↔ sep ∉ s := by
  refine ⟨fun h => ?_, fun h => congrArg Prod.fst (cut_of_not_mem h)⟩
  induction s with
  | nil => exact List.not_mem_nil
  | cons c rest ih =>
      rw [cut] at h
      split at h
      next => cases h
      next hc =>
        rw [List.mem_cons, not_or]
        exact ⟨Ne.symm hc, ih (List.cons.inj h).2⟩

/-- `part` stands in `s` between two occurrences of `sep`, as which the ends of `s` count too. -/
structure IsPart (sep : Char) (s part : List Char) : Prop where
  single : sep ∉ part
  place : ∃ before after, s = before ++ part ++ after ∧ (∀ c ∈ before.getLast?, c = sep) ∧
    ∀ c ∈ after.head?, c = sep

theorem IsPart.subset {sep : Char} {s part : List Char} (h : IsPart sep s part) : part ⊆ s := by
  obtain ⟨before, after, rfl, -⟩ := h.place
  intro c hc
  exact List.mem_append_left after (List.mem_append_right before hc)

theorem not_mem_of_mem_split {sep : Char} {s : List Char} : ∀ part ∈ split sep s, sep ∉ part := by
  induction s with
  | nil => simp [split]
  | cons c rest ih =>
      rw [split]
      split
      next => simpa using ih
      next hc =>
        cases hrest : split sep rest with
        | nil => simp [Ne.symm hc]
        | cons part parts =>
            rw [hrest, List.forall_mem_cons] at ih
            simpa [Ne.symm hc] using ih

theorem mem_split_iff {sep : Char} {s part : List Char} :
    part ∈ split sep s ↔ IsPart sep s part := by
  constructor
  · intro h
    refine ⟨not_mem_of_mem_split part h, ?_⟩
    obtain ⟨before, after, hsplit⟩ := List.append_of_mem h
    have hs := join_split sep s
    rw [hsplit] at hs
    -- what the parts behind come to begins with the separator, if there are any
    obtain ⟨after', hafter, hhead⟩ : ∃ after',
        join [sep] (part :: after) = part ++ after' ∧ ∀ c ∈ after'.head?, c = sep := by
      cases after with
      | nil => exact ⟨[], (List.append_nil part).symm, nofun⟩
      | cons next after =>
          refine ⟨_, join_cons_cons sep part next after, fun c hc => (Option.some.inj hc).symm⟩
    by_cases hbefore : before = []
    · rw [hbefore, List.nil_append, hafter] at hs
      exact ⟨[], after', by rw [List.nil_append, hs], nofun, hhead⟩
    · rw [join_append sep hbefore (List.cons_ne_nil _ _), hafter] at hs
      refine ⟨join [sep] before ++ [sep], after', ?_, ?_, hhead⟩
      · rw [← hs, List.append_assoc, List.append_assoc, List.singleton_append]
      · intro c hc
        rw [List.getLast?_concat] at hc
        exact (Option.some.inj hc).symm
  · rintro ⟨hsingle, before, after, rfl, hlast, hhead⟩
    have hbehind : part ∈ split sep (part ++ after) := by
      cases after with
      | nil => simp [split_of_not_mem hsingle]
      | cons c after =>
          obtain rfl := hhead c rfl
          simp [split_append, split_of_not_mem hsingle]
    cases hbefore : before.getLast? with
    | none => rwa [List.getLast?_eq_none_iff.mp hbefore]
    | some c =>
        obtain rfl := hlast c hbefore
        obtain ⟨before, rfl⟩ := List.getLast?_eq_some_iff.mp hbefore
        rw [List.append_assoc, List.append_assoc, List.singleton_append, split_append]
        exact List.mem_append_right _ hbehind

theorem stripLead?_eq_some_iff {lead s rest : List Char} :
    stripLead? lead s = some rest ↔ s = lead ++ rest := by
  induction lead generalizing s with
  | nil => rw [stripLead?.eq_1, Option.some.injEq, List.nil_append]
  | cons l lead ih =>
      cases s with
      | nil => simp [stripLead?]
      | cons c s =>
          rw [stripLead?, List.cons_append, List.cons.injEq]
          split
          next hc => rw [ih, and_iff_right hc.symm]
          next hc => simp [Ne.symm hc]

theorem stripTail?_eq_some_iff {tail s rest : List Char} :
    stripTail? tail s = some rest ↔ s = rest ++ tail := by
  rw [stripTail?, Option.map_eq_some_iff]
  constructor
  · rintro ⟨reversed, h, rfl⟩
    rw [stripLead?_eq_some_iff] at h
    rw [← List.reverse_reverse s, h, List.reverse_append, List.reverse_reverse]
  · rintro rfl
    exact ⟨rest.reverse, stripLead?_eq_some_iff.mpr List.reverse_append,
      List.reverse_reverse rest⟩

end RegistryConsole.Text
