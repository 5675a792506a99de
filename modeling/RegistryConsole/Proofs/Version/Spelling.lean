import RegistryConsole.Proofs.Text.Blank
import RegistryConsole.Proofs.Text.Split
import RegistryConsole.Proofs.Version.Preorder
/-!
# Spellings of versions

Blanks around a version, a leading `v`, build metadata and a zero behind the core change nothing in
how it compares with any other (`compareVersions_respelled`). They may make it a semantic version or
keep it from being one, so that another comparison comes to decide. What is left out does not count
in the lenient comparison, and where that one is passed over it agrees with precedence
(`compareLenient_eq_precedence`).
-/
namespace RegistryConsole.Version

open Text Std

/-- The identifiers of a prerelease, in any text. -/
def identifiersOf (s : String) : List (List Char) :=
  ((parts (bare s)).2.map (split '.')).getD []

/-- The numbers in the prerelease of a text are all below the bound of the other numbers. -/
def HasBoundedNumbers (s : String) : Prop :=
  ∀ identifier ∈ identifiersOf s, ∀ n ∈ natural? identifier, n < Semantic.numberBound

theorem HasBoundedNumbers.isBounded {s : String} (h : HasBoundedNumbers s) :
    ∀ v ∈ semantic? s, v.IsBounded := by
  intro v hv
  obtain ⟨major, minor, patch, -, -, -, -, hprerelease⟩ := semantic?_eq_some hv
  obtain ⟨-, hnone⟩ | ⟨prerelease, hparts, hidentifiers, -⟩ := prerelease?_eq_some hprerelease
  · rw [Semantic.IsBounded, hnone]
    exact List.forall_mem_nil _
  · rw [HasBoundedNumbers, identifiersOf, hparts, Option.map_some, Option.getD_some,
      ← hidentifiers] at h
    exact h

/-- Versions that are semantic compare leniently as they do by precedence. -/
theorem compareLenient_eq_precedence {a b : String} {v w : Semantic} (ha : semantic? a = some v)
    (hb : semantic? b = some w) (haNumbers : HasBoundedNumbers a)
    (hbNumbers : HasBoundedNumbers b) : compareLenient a b = v.precedence w :=
  compareLenient_of_semantic ha hb (haNumbers.isBounded v ha) (hbNumbers.isBounded w hb)

/-- Ten after two, where texts would compare the other way, and a hyphen in build metadata. -/
theorem compareLenient_eq_precedence_numeric :
    semantic? "v1.0.0-rc.10+build-1.x" =
        some ⟨1, 0, 0, [['r', 'c'], ['1', '0']]⟩ ∧
      semantic? " 1.0.0-rc.2 " = some ⟨1, 0, 0, [['r', 'c'], ['2']]⟩ ∧
      HasBoundedNumbers "v1.0.0-rc.10+build-1.x" ∧ HasBoundedNumbers " 1.0.0-rc.2 " ∧
      compareLenient "v1.0.0-rc.10+build-1.x" " 1.0.0-rc.2 " =
        Semantic.precedence ⟨1, 0, 0, [['r', 'c'], ['1', '0']]⟩
          ⟨1, 0, 0, [['r', 'c'], ['2']]⟩ := by
  have ha : semantic? "v1.0.0-rc.10+build-1.x" =
      some ⟨1, 0, 0, [['r', 'c'], ['1', '0']]⟩ := by decide +kernel
  have hb : semantic? " 1.0.0-rc.2 " = some ⟨1, 0, 0, [['r', 'c'], ['2']]⟩ := by
    decide +kernel
  have haNumbers : HasBoundedNumbers "v1.0.0-rc.10+build-1.x" := by
    rw [HasBoundedNumbers]
    decide +kernel
  have hbNumbers : HasBoundedNumbers " 1.0.0-rc.2 " := by
    rw [HasBoundedNumbers]
    decide +kernel
  exact ⟨ha, hb, haNumbers, hbNumbers, compareLenient_eq_precedence ha hb haNumbers hbNumbers⟩

theorem padded_append_zero {length : Nat} {core : List (List Char)} (h : core.length < length) :
    padded length (core ++ [['0']]) = padded length core := by
  obtain ⟨n, hn⟩ : ∃ n, length - core.length = n + 1 := ⟨length - core.length - 1, by omega⟩
  have hrest : length - (core ++ [['0']]).length = n := by
    rw [List.length_append, List.length_singleton]
    omega
  rw [padded, padded, List.rightpad, List.rightpad, hn, hrest, List.replicate_succ,
    List.append_assoc, List.singleton_append]

theorem compareCores_append_zero (as bs : List (List Char)) :
    compareCores (as ++ [['0']]) bs = compareCores as bs := by
  have has : (as ++ [['0']]).length ≤ max (as.length + 1) bs.length := by
    rw [List.length_append]
    exact Nat.le_max_left _ _
  have hbs : bs.length ≤ max (as.length + 1) bs.length := Nat.le_max_right _ _
  rw [compareCores_eq has hbs, compareCores_eq (by omega) hbs, padded_append_zero (by omega)]

/-- A version with a zero behind its core. -/
def withZero (x : String) : String :=
  String.ofList (x.toList.takeWhile (· ≠ '-') ++ ['.', '0'] ++ x.toList.dropWhile (· ≠ '-'))

/-- Another spelling of a version. -/
inductive Respelling (x : String) : String → Prop where
  | blanks {left right : List Char} (h : ∀ c ∈ left ++ right, isBlank c = true) :
      Respelling x (String.ofList (left ++ x.toList ++ right))
  | lead (h : ∀ c ∈ x.toList.head?, c ≠ 'v') : Respelling x ("v" ++ x)
  | build (metadata : String) : Respelling x (x ++ "+" ++ metadata)
  | zero : Respelling x (withZero x)

/-- What is left of a version without the `v` it may begin with. -/
def withoutLead : List Char → List Char
  | 'v' :: rest => rest
  | rest => rest

theorem bare_of_isTrimmed {s : String} {trimmed : List Char} (h : IsTrimmed s.toList trimmed) :
    bare s = withoutLead trimmed := by
  rw [bare, h.trimChars_eq]
  rfl

theorem withoutLead_append {c : Char} (hc : c ≠ 'v') (s t : List Char) :
    withoutLead (s ++ c :: t) = withoutLead s ++ c :: t := by
  cases s with
  | nil => exact withoutLead.eq_2 _ fun rest h => hc (List.cons.inj h).1
  | cons d s =>
      by_cases hd : d = 'v'
      · subst hd
        rfl
      · rw [List.cons_append, withoutLead.eq_2, withoutLead.eq_2, List.cons_append]
        · exact fun rest h => hd (List.cons.inj h).1
        · exact fun rest h => hd (List.cons.inj h).1

theorem withoutLead_sublist (s : List Char) : (withoutLead s).Sublist s := by
  unfold withoutLead
  split
  · exact List.sublist_cons_self _ _
  · exact List.Sublist.refl _

theorem parts_build {s : List Char} (h : '+' ∉ s) (metadata : List Char) :
    parts (s ++ '+' :: metadata) = parts s := by
  rw [parts, parts, cut_append_none (cut_of_not_mem h), cut_of_not_mem h]
  simp [cut]

theorem parts_append {core rest : List Char} (hcore : '+' ∉ core ∧ '-' ∉ core)
    (hplus : '+' ∉ rest) (hhyphen : ∀ c ∈ rest.head?, c = '-') :
    parts (core ++ rest) = (core, (cut '-' rest).2) := by
  have hboth : '+' ∉ core ++ rest := by
    rw [List.mem_append, not_or]
    exact ⟨hcore.1, hplus⟩
  have hrest : (cut '-' rest).1 = [] := by
    cases rest with
    | nil => rfl
    | cons c rest =>
        obtain rfl := hhyphen c rfl
        rfl
  rw [parts, cut_of_not_mem hboth, cut_append_none (cut_of_not_mem hcore.2), hrest,
    List.append_nil]

theorem parts_zero {core rest : List Char} (hcore : '+' ∉ core ∧ '-' ∉ core) (hplus : '+' ∉ rest)
    (hhyphen : ∀ c ∈ rest.head?, c = '-') :
    parts (withoutLead (core ++ ['.', '0'] ++ rest)) =
      ((parts (withoutLead (core ++ rest))).1 ++ ['.', '0'],
        (parts (withoutLead (core ++ rest))).2) := by
  have hrest : withoutLead (core ++ rest) = withoutLead core ++ rest := by
    cases rest with
    | nil => rw [List.append_nil, List.append_nil]
    | cons c rest =>
        obtain rfl := hhyphen c rfl
        exact withoutLead_append (by decide) core rest
  have hzero : withoutLead (core ++ ['.', '0'] ++ rest) =
      withoutLead core ++ ['.', '0'] ++ rest := by
    rw [List.append_assoc, List.append_assoc]
    exact withoutLead_append (by decide) core ('0' :: rest)
  have hbare : '+' ∉ withoutLead core ∧ '-' ∉ withoutLead core :=
    ⟨fun h => hcore.1 ((withoutLead_sublist core).subset h),
      fun h => hcore.2 ((withoutLead_sublist core).subset h)⟩
  have hbareZero : '+' ∉ withoutLead core ++ ['.', '0'] ∧
      '-' ∉ withoutLead core ++ ['.', '0'] := by
    simp [hbare]
  rw [hzero, hrest, parts_append hbareZero hplus hhyphen, parts_append hbare hplus hhyphen]

section Respelling

variable {x x' : String}

theorem parts_bare_lead (h : IsTrimmed x.toList x.toList) (hv : ∀ c ∈ x.toList.head?, c ≠ 'v') :
    parts (bare ("v" ++ x)) = parts (withoutLead x.toList) := by
  have hnone : withoutLead x.toList = x.toList :=
    withoutLead.eq_2 _ fun rest hrest => hv 'v' (by rw [hrest]; rfl) rfl
  have htoList : ("v" ++ x).toList = 'v' :: x.toList := String.toList_append
  have hlead : IsTrimmed ("v" ++ x).toList ('v' :: x.toList) := by
    rw [htoList]
    exact h.insert (s := []) (u := ['v']) (List.cons_ne_nil _ _)
      (List.forall_mem_singleton.mpr (by decide))
  rw [bare_of_isTrimmed hlead, hnone]
  rfl

theorem parts_bare_build (h : IsTrimmed x.toList x.toList) (hplus : '+' ∉ x.toList)
    (metadata : String) :
    parts (bare (x ++ "+" ++ metadata)) = parts (withoutLead x.toList) := by
  have hplusBlank : isBlank '+' = false := by decide
  obtain ⟨metadata', hmetadata⟩ := exists_isTrimmed_append hplusBlank h.head metadata.toList
  have htoList : (x ++ "+" ++ metadata).toList = x.toList ++ '+' :: metadata.toList := by
    rw [String.toList_append, String.toList_append, List.append_assoc]
    rfl
  rw [← htoList] at hmetadata
  rw [bare_of_isTrimmed hmetadata, withoutLead_append (by decide), parts_build]
  exact fun hmem => hplus ((withoutLead_sublist _).subset hmem)

theorem parts_bare_withZero (h : IsTrimmed x.toList x.toList) (hplus : '+' ∉ x.toList) :
    parts (bare (withZero x)) = ((parts (withoutLead x.toList)).1 ++ ['.', '0'],
      (parts (withoutLead x.toList)).2) := by
  have hhyphen : ∀ c ∈ (x.toList.dropWhile (· ≠ '-')).head?, c = '-' := by
    intro c hc
    have hstop := List.head?_dropWhile_not (· ≠ '-') x.toList
    rw [hc] at hstop
    simpa using hstop
  have hcore : '-' ∉ x.toList.takeWhile (· ≠ '-') := fun hmem => by
    simpa using List.all_eq_true.mp List.all_takeWhile _ hmem
  have hsplit := List.takeWhile_append_dropWhile (p := (· ≠ '-')) (l := x.toList)
  rw [← hsplit] at h hplus
  rw [List.mem_append, not_or] at hplus
  have hblank : ∀ c ∈ ['.', '0'], isBlank c = false := by
    rw [List.forall_mem_cons, List.forall_mem_singleton]
    decide
  have hzero : IsTrimmed (withZero x).toList (x.toList.takeWhile (· ≠ '-') ++ ['.', '0'] ++
      x.toList.dropWhile (· ≠ '-')) := by
    rw [withZero, String.toList_ofList]
    exact h.insert (List.cons_ne_nil _ _) hblank
  rw [bare_of_isTrimmed hzero, parts_zero ⟨hplus.1, hcore⟩ hplus.2 hhyphen, hsplit]

/-- In another spelling, the core and the prerelease are what they are, or the core has a zero
more. -/
theorem Respelling.parts_eq (h : Respelling x x') (hx : trim x = x) (hplus : '+' ∉ x.toList) :
    parts (bare x') = parts (bare x) ∨
      parts (bare x') = ((parts (bare x)).1 ++ ['.', '0'], (parts (bare x)).2) := by
  have htrimmed : IsTrimmed x.toList x.toList := by
    have h := trimChars_isTrimmed x.toList
    rwa [← String.toList_ofList (l := trimChars x.toList), ← trim, hx] at h
  rw [bare_of_isTrimmed htrimmed]
  cases h with
  | blanks hblank =>
      have hsurrounded : IsTrimmed (String.ofList _).toList x.toList :=
        ⟨⟨_, _, String.toList_ofList, hblank⟩, htrimmed.head, htrimmed.last⟩
      exact .inl (congrArg parts (bare_of_isTrimmed hsurrounded))
  | lead hv => exact .inl (parts_bare_lead htrimmed hv)
  | build metadata => exact .inl (parts_bare_build htrimmed hplus metadata)
  | zero => exact .inr (parts_bare_withZero htrimmed hplus)

theorem Respelling.hasBoundedNumbers (h : Respelling x x') (hx : trim x = x)
    (hplus : '+' ∉ x.toList) (hbounded : HasBoundedNumbers x) : HasBoundedNumbers x' := by
  have hidentifiers : identifiersOf x' = identifiersOf x := by
    obtain hparts | hparts := h.parts_eq hx hplus <;> rw [identifiersOf, hparts, identifiersOf]
  rw [HasBoundedNumbers, hidentifiers]
  exact hbounded

theorem Respelling.compareLenient_eq (h : Respelling x x') (hx : trim x = x)
    (hplus : '+' ∉ x.toList) (y : String) : compareLenient x' y = compareLenient x y := by
  obtain hparts | hparts := h.parts_eq hx hplus
  · rw [compareLenient, compareLenient, hparts]
  · have hcore : split '.' ((parts (bare x)).1 ++ ['.', '0']) =
        split '.' (parts (bare x)).1 ++ [['0']] := split_append '.' _ ['0']
    rw [compareLenient, compareLenient, hparts]
    dsimp only
    rw [hcore, compareCores_append_zero]

/-- A version keeps its place among all versions in every other spelling. -/
theorem compareVersions_respelled {y : String} (hx : trim x = x) (hplus : '+' ∉ x.toList)
    (hxNumbers : HasBoundedNumbers x) (hyNumbers : HasBoundedNumbers y) (h : Respelling x x') :
    compareVersions x' y = compareVersions x y ∧ compareVersions y x' = compareVersions y x := by
  have hx'Numbers := h.hasBoundedNumbers hx hplus hxNumbers
  have hsame : compareVersions x' y = compareVersions x y := by
    rw [compareVersions_of_bounded hx'Numbers.isBounded hyNumbers.isBounded,
      compareVersions_of_bounded hxNumbers.isBounded hyNumbers.isBounded,
      h.compareLenient_eq hx hplus]
  refine ⟨hsame, ?_⟩
  rw [compareVersions_swap x' y, compareVersions_swap x y, hsame]

/-- A prerelease whose core gets a third component, against another with a hyphen in its build
metadata. -/
theorem compareVersions_respelled_prerelease :
    trim "v1.0-rc.1" = "v1.0-rc.1" ∧ '+' ∉ "v1.0-rc.1".toList ∧
      HasBoundedNumbers "v1.0-rc.1" ∧ HasBoundedNumbers "1.0.0-rc.2+build-1" ∧
      compareVersions "v1.0.0-rc.1" "1.0.0-rc.2+build-1" =
        compareVersions "v1.0-rc.1" "1.0.0-rc.2+build-1" ∧
      compareVersions "1.0.0-rc.2+build-1" "v1.0.0-rc.1" =
        compareVersions "1.0.0-rc.2+build-1" "v1.0-rc.1" := by
  have hx : trim "v1.0-rc.1" = "v1.0-rc.1" := by decide +kernel
  have hplus : '+' ∉ "v1.0-rc.1".toList := by decide +kernel
  have hxNumbers : HasBoundedNumbers "v1.0-rc.1" := by
    rw [HasBoundedNumbers]
    decide +kernel
  have hyNumbers : HasBoundedNumbers "1.0.0-rc.2+build-1" := by
    rw [HasBoundedNumbers]
    decide +kernel
  have hzero : withZero "v1.0-rc.1" = "v1.0.0-rc.1" := by decide +kernel
  exact ⟨hx, hplus, hxNumbers, hyNumbers,
    compareVersions_respelled hx hplus hxNumbers hyNumbers (hzero ▸ .zero)⟩

end Respelling

end RegistryConsole.Version
