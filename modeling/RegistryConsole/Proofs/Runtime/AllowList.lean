import RegistryConsole.Proofs.Runtime.Resolution
/-!
# Whom the document admits

The users that a document names are what its list has between commas, without the blanks around them
(`mem_splitUsers_iff`). A list that names nobody admits everyone, as one that was never rendered does
(`isAuthorized_iff`).
-/
namespace RegistryConsole.RuntimeConfiguration

open Text

theorem mem_splitUsers_iff {s user : String} :
    user ∈ splitUsers s ↔ ∃ part, IsPart ',' s.toList part ∧
      (¬ ∀ c ∈ part, isBlank c = true) ∧ IsTrimmed part user.toList := by
  simp only [splitUsers, List.mem_map, List.mem_filter, Bool.not_eq_true', ← Bool.not_eq_true,
    List.isEmpty_iff]
  constructor
  · rintro ⟨trimmed, ⟨⟨part, hpart, rfl⟩, hne⟩, rfl⟩
    rw [trimChars_eq_nil_iff] at hne
    rw [String.toList_ofList]
    exact ⟨part, mem_split_iff.mp hpart, hne, trimChars_isTrimmed part⟩
  · rintro ⟨part, hpart, hne, htrimmed⟩
    rw [← trimChars_eq_nil_iff] at hne
    refine ⟨trimChars part, ⟨⟨part, mem_split_iff.mpr hpart, rfl⟩, hne⟩, ?_⟩
    rw [htrimmed.trimChars_eq, String.ofList_toList]

example : splitUsers " jane,, john\u2003" = ["jane", "john"] := by decide +kernel

theorem splitUsers_eq_nil_iff {s : String} :
    splitUsers s = [] ↔ ∀ part, IsPart ',' s.toList part → ∀ c ∈ part, isBlank c = true := by
  simp only [List.eq_nil_iff_forall_not_mem, mem_splitUsers_iff]
  constructor
  · intro h part hpart
    by_contra hne
    refine h (String.ofList (trimChars part)) ⟨part, hpart, hne, ?_⟩
    rw [String.toList_ofList]
    exact trimChars_isTrimmed part
  · rintro h user ⟨part, hpart, hne, -⟩
    exact hne (h part hpart)

theorem isAuthorized_eq_true_iff {c : RuntimeConfiguration} {user : String} :
    c.isAuthorized user = true ↔ c.authorizedUsers = [] ∨ user ∈ c.authorizedUsers := by
  rw [isAuthorized, Bool.or_eq_true, List.isEmpty_iff, List.contains_iff_mem]

/-- Everyone is admitted by a list that was never rendered or has nothing but blanks between its
commas, and otherwise whoever it names. -/
theorem isAuthorized_iff (document : RuntimeDocument) (defaults : RuntimeDefaults)
    (user : String) :
    (resolve document defaults).isAuthorized user = true ↔
      Unrendered document.authorizedUsers.toList ∨
        (∀ part, IsPart ',' document.authorizedUsers.toList part →
          ∀ c ∈ part, isBlank c = true) ∨
        ∃ part, IsPart ',' document.authorizedUsers.toList part ∧
          (¬ ∀ c ∈ part, isBlank c = true) ∧ IsTrimmed part user.toList := by
  have hresolved : (resolve document defaults).authorizedUsers =
      splitUsers (orDefault document.authorizedUsers "") := rfl
  rw [isAuthorized_eq_true_iff, hresolved]
  by_cases hsilent : Silent document.authorizedUsers
  · have hnobody : splitUsers (orDefault document.authorizedUsers "") = [] := by
      rw [orDefault_of_silent hsilent]
      rfl
    refine iff_of_true (.inl hnobody) ?_
    obtain hblank | hunrendered := hsilent
    · exact .inr (.inl fun part hpart c hc => hblank c (hpart.subset hc))
    · exact .inl hunrendered
  · have hrendered : ¬ Unrendered document.authorizedUsers.toList := fun h => hsilent (.inr h)
    rw [orDefault_of_not_silent hsilent, splitUsers_eq_nil_iff, mem_splitUsers_iff,
      or_iff_right hrendered]

end RegistryConsole.RuntimeConfiguration
