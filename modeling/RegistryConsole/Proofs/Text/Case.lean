import RegistryConsole.Text.Case
/-!
# Laws of small letters
-/
namespace RegistryConsole.Text

theorem isAlphanum_iff {c : Char} : c.isAlphanum = true ↔
    (65 ≤ c.toNat ∧ c.toNat ≤ 90) ∨ (97 ≤ c.toNat ∧ c.toNat ≤ 122) ∨
      (48 ≤ c.toNat ∧ c.toNat ≤ 57) := by
  have hranges : c.isAlphanum = ((decide (65 ≤ c.val ∧ c.val ≤ 90) ||
      (decide (97 ≤ c.val) && decide (c.val ≤ 122))) ||
      (decide (48 ≤ c.val) && decide (c.val ≤ 57))) := rfl
  simp only [hranges, Bool.or_eq_true, Bool.and_eq_true, decide_eq_true_eq,
    UInt32.le_iff_toNat_le, or_assoc]
  rfl

theorem toLower_cases (c : Char) :
    c.toLower = c ∨ 65 ≤ c.toNat ∧ c.toNat ≤ 90 ∧ c.toLower.toNat = c.toNat + 32 := by
  by_cases h : c.val ≥ 'A'.val ∧ c.val ≤ 'Z'.val
  · right
    have hshift : c.toLower.val = c.val + 32 := congrArg Char.val (dif_pos h)
    simp only [ge_iff_le, UInt32.le_iff_toNat_le] at h
    have hlow : 65 ≤ c.val.toNat := h.1
    have hhigh : c.val.toNat ≤ 90 := h.2
    refine ⟨hlow, hhigh, (congrArg UInt32.toNat hshift).trans ?_⟩
    show (c.val.toNat + 32) % 2 ^ 32 = c.val.toNat + 32
    exact Nat.mod_eq_of_lt (by omega)
  · exact .inl (dif_neg h)

theorem eq_of_toLower_eq {c d : Char} (h : c.toLower = d) (hd : d.toNat < 97 ∨ 122 < d.toNat) :
    c = d := by
  obtain hsame | ⟨hlow, hhigh, hshift⟩ := toLower_cases c
  · exact hsame.symm.trans h
  · rw [h] at hshift
    omega

theorem eq_of_toLower_eq_e {c : Char} (h : c.toLower = 'e') : c = 'e' ∨ c = 'E' := by
  obtain hsame | ⟨-, -, hshift⟩ := toLower_cases c
  · exact .inl (hsame.symm.trans h)
  · right
    have hcode : 'e'.toNat = 'E'.toNat + 32 := rfl
    rw [h, hcode] at hshift
    exact Char.toNat_inj.mp (by omega)

theorem lowerFrom_of_ascii {s : List Char} (h : ∀ c ∈ s, c.toNat < 0x80) (before : List Char) :
    lowerFrom before s = s.map Char.toLower := by
  induction s generalizing before with
  | nil => rfl
  | cons c rest ih =>
      rw [List.forall_mem_cons] at h
      have hsigma : ¬ c.toNat = 0x3A3 := by omega
      rw [lowerFrom, ih h.2, List.map_cons]
      exact congrArg (· ++ rest.map Char.toLower) ((if_neg hsigma).trans (if_pos h.1))

theorem toLower_of_ascii {s : String} (h : ∀ c ∈ s.toList, c.toNat < 0x80) :
    toLower s = String.ofList (s.toList.map Char.toLower) := by
  rw [toLower, lowerChars, lowerFrom_of_ascii h]

theorem toLower_toLower_char (c : Char) : c.toLower.toLower = c.toLower := by
  obtain hsame | ⟨hlow, hhigh, hshift⟩ := toLower_cases c
  · rw [hsame, hsame]
  · obtain hsame | ⟨hlow', hhigh', -⟩ := toLower_cases c.toLower
    · exact hsame
    · omega

end RegistryConsole.Text
