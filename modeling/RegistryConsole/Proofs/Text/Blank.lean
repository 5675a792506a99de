import RegistryConsole.Text.Blank
/-!
# Trimming

What is left of a text without the blanks at its ends: the middle of it that neither begins nor ends
with a blank (`trimChars_isTrimmed`), of which there is only one (`IsTrimmed.trimChars_eq`).
-/
namespace RegistryConsole.Text

theorem not_isBlank_of_visible {c : Char} (hlow : 0x20 < c.toNat) (hhigh : c.toNat < 0x7F) :
    isBlank c = false := by
  simp only [isBlank, Bool.or_eq_false_iff, Bool.and_eq_false_iff, decide_eq_false_iff_not,
    beq_eq_false_iff_ne]
  omega

/-- `trimmed` is all of `s` but blanks at both ends, and has none there itself. -/
structure IsTrimmed (s trimmed : List Char) : Prop where
  middle : ∃ left right, s = left ++ trimmed ++ right ∧ ∀ c ∈ left ++ right, isBlank c = true
  head : ∀ c ∈ trimmed.head?, isBlank c = false
  last : ∀ c ∈ trimmed.getLast?, isBlank c = false

private theorem trimRight_append (s : List Char) :
    ∃ right, s = trimRight s ++ right ∧ (∀ c ∈ right, isBlank c = true) ∧
      ∀ c ∈ (trimRight s).getLast?, isBlank c = false := by
  induction s with
  | nil => exact ⟨[], rfl, nofun, nofun⟩
  | cons c rest ih =>
      obtain ⟨right, hrest, hright, hlast⟩ := ih
      rw [trimRight]
      cases hkept : trimRight rest with
      | nil =>
          rw [hkept, List.nil_append] at hrest
          cases hblank : isBlank c with
          | true =>
              refine ⟨c :: right, by rw [hrest]; rfl, ?_, nofun⟩
              intro c' hc'
              rcases List.mem_cons.mp hc' with rfl | hc'
              · exact hblank
              · exact hright c' hc'
          | false =>
              refine ⟨right, by rw [hrest]; rfl, hright, ?_⟩
              intro c' hc'
              obtain rfl : c = c' := Option.some.inj hc'
              exact hblank
      | cons c' kept =>
          rw [hkept] at hrest hlast
          refine ⟨right, by rw [hrest]; rfl, hright, ?_⟩
          intro d hd
          exact hlast d (by rwa [List.getLast?_cons_cons] at hd)

theorem trimChars_isTrimmed (s : List Char) : IsTrimmed s (trimChars s) := by
  obtain ⟨right, hrest, hright, hlast⟩ := trimRight_append (s.dropWhile isBlank)
  rw [← trimChars] at hrest hlast
  refine ⟨⟨s.takeWhile isBlank, right, ?_, ?_⟩, ?_, hlast⟩
  · rw [List.append_assoc, ← hrest, List.takeWhile_append_dropWhile]
  · intro c hc
    rcases List.mem_append.mp hc with hc | hc
    · exact List.all_eq_true.mp List.all_takeWhile c hc
    · exact hright c hc
  · intro c hc
    have hhead : (s.dropWhile isBlank).head? = some c := by
      rw [hrest]
      cases htrimmed : trimChars s with
      | nil =>
          rw [htrimmed] at hc
          cases hc
      | cons c' rest =>
          rw [htrimmed] at hc
          exact hc
    have hstop := List.head?_dropWhile_not isBlank s
    rw [hhead] at hstop
    simpa using hstop

private theorem trimRight_append_blanks (s : List Char) {right : List Char}
    (h : ∀ c ∈ right, isBlank c = true) : trimRight (s ++ right) = trimRight s := by
  induction s with
  | nil =>
      induction right with
      | nil => rfl
      | cons c right ih =>
          rw [List.forall_mem_cons] at h
          have hright : trimRight right = [] := ih h.2
          simp only [List.nil_append, trimRight, hright, h.1, if_true]
  | cons c s ih => rw [List.cons_append, trimRight, trimRight, ih]

private theorem trimRight_eq_self {s : List Char} (h : ∀ c ∈ s.getLast?, isBlank c = false) :
    trimRight s = s := by
  obtain ⟨right, hs, hright, -⟩ := trimRight_append s
  cases hlast : right.getLast? with
  | none =>
      rw [List.getLast?_eq_none_iff.mp hlast, List.append_nil] at hs
      exact hs.symm
  | some c =>
      have hblank := hright c (List.mem_of_getLast? hlast)
      rw [hs, List.getLast?_append, hlast] at h
      exact absurd ((h c rfl).symm.trans hblank) Bool.noConfusion

/-- There is only one middle that neither begins nor ends with a blank. -/
theorem IsTrimmed.trimChars_eq {s trimmed : List Char} (h : IsTrimmed s trimmed) :
    trimChars s = trimmed := by
  obtain ⟨⟨left, right, rfl, hblank⟩, hhead, hlast⟩ := h
  rw [List.forall_mem_append] at hblank
  rw [trimChars, List.append_assoc, List.dropWhile_append_of_pos hblank.1]
  cases trimmed with
  | nil =>
      rw [List.nil_append, ← List.append_nil right, List.dropWhile_append_of_pos hblank.2]
      rfl
  | cons c rest =>
      rw [List.cons_append, List.dropWhile_cons_of_neg (by simp [hhead c rfl]),
        ← List.cons_append, trimRight_append_blanks _ hblank.2, trimRight_eq_self hlast]

theorem trimChars_eq_iff {s trimmed : List Char} : trimChars s = trimmed ↔ IsTrimmed s trimmed :=
  ⟨fun h => h ▸ trimChars_isTrimmed s, IsTrimmed.trimChars_eq⟩

theorem IsTrimmed.of_no_blank {left trimmed right : List Char}
    (hblank : ∀ c ∈ left ++ right, isBlank c = true) (h : ∀ c ∈ trimmed, isBlank c = false) :
    IsTrimmed (left ++ trimmed ++ right) trimmed :=
  ⟨⟨left, right, rfl, hblank⟩, fun c hc => h c (List.mem_of_mem_head? hc),
    fun c hc => h c (List.mem_of_mem_getLast? hc)⟩

theorem trimChars_of_no_blank {s : List Char} (h : ∀ c ∈ s, isBlank c = false) :
    trimChars s = s := by
  have hnone : ∀ c ∈ ([] : List Char) ++ [], isBlank c = true := nofun
  have htrimmed := IsTrimmed.of_no_blank hnone h
  rw [List.append_nil, List.nil_append] at htrimmed
  exact htrimmed.trimChars_eq

theorem exists_isTrimmed_append {c : Char} (hc : isBlank c = false) {s : List Char}
    (hs : ∀ c ∈ s.head?, isBlank c = false) (t : List Char) :
    ∃ t', IsTrimmed (s ++ c :: t) (s ++ c :: t') := by
  obtain ⟨right, ht, hright, hlast⟩ := trimRight_append t
  refine ⟨trimRight t, ⟨[], right, ?_, hright⟩, ?_, ?_⟩
  · rw [List.nil_append, List.append_assoc, List.cons_append, ← ht]
  · cases s with
    | nil =>
        intro d hd
        obtain rfl : c = d := Option.some.inj hd
        exact hc
    | cons d s => exact hs
  · rw [List.getLast?_append, List.getLast?_cons]
    cases hkept : (trimRight t).getLast? with
    | none =>
        intro d hd
        obtain rfl : c = d := Option.some.inj hd
        exact hc
    | some d =>
        rw [hkept] at hlast
        exact hlast

theorem IsTrimmed.insert {s t u : List Char} (h : IsTrimmed (s ++ t) (s ++ t)) (hne : u ≠ [])
    (hu : ∀ c ∈ u, isBlank c = false) : IsTrimmed (s ++ u ++ t) (s ++ u ++ t) := by
  refine ⟨⟨[], [], by rw [List.nil_append, List.append_nil], nofun⟩, ?_, ?_⟩
  · cases s with
    | nil =>
        rw [List.nil_append, List.head?_append, List.head?_eq_some_head hne]
        intro c hc
        obtain rfl : u.head hne = c := Option.some.inj hc
        exact hu _ (List.head_mem hne)
    | cons d s => exact h.head
  · have hlast := h.last
    rw [List.getLast?_append] at hlast
    rw [List.getLast?_append, List.getLast?_append, List.getLast?_eq_some_getLast hne]
    cases htail : t.getLast? with
    | none =>
        intro c hc
        obtain rfl : u.getLast hne = c := Option.some.inj hc
        exact hu _ (List.getLast_mem hne)
    | some d =>
        rw [htail] at hlast
        exact hlast

theorem trimChars_eq_nil_iff {s : List Char} : trimChars s = [] ↔ ∀ c ∈ s, isBlank c = true := by
  obtain ⟨⟨left, right, hmiddle, hblank⟩, hhead, -⟩ := trimChars_isTrimmed s
  constructor
  · intro h c hc
    rw [h, List.append_nil] at hmiddle
    rw [hmiddle] at hc
    exact hblank c hc
  · intro h
    cases htrimmed : trimChars s with
    | nil => rfl
    | cons c rest =>
        rw [htrimmed] at hhead hmiddle
        have hc : c ∈ s := by
          rw [hmiddle]
          simp
        exact absurd ((h c hc).symm.trans (hhead c rfl)) Bool.noConfusion

theorem trim_eq_empty_iff {s : String} : trim s = "" ↔ isBlankText s = true := by
  rw [isBlankText, List.all_eq_true, ← trimChars_eq_nil_iff, trim, ← String.toList_inj,
    String.toList_ofList]
  rfl

end RegistryConsole.Text
