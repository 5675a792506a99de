import Mathlib.Algebra.Group.Nat.Defs
import RegistryConsole.Proofs.Version.Comparison
/-!
# The order of all versions

Two semantic versions compare by precedence and any other two texts leniently, so the order of all
texts holds together only where both comparisons agree on semantic versions
(`compareLenient_of_semantic`). They part where a number in a prerelease is too long to be counted
with: precedence compares its length first, the lenient comparison takes it for a text. Up to that
the order is total and transitive (`compareVersions_preorder`); beyond it three versions can go
round in a circle (`compareVersions_circle`).
-/
namespace RegistryConsole.Version

open Text Std

theorem digitValue?_eq (c : Char) :
    digitValue? c = if c.isDigit then some (c.toNat - '0'.toNat) else none := by
  have hdigit : ('0' ≤ c && c ≤ '9') = c.isDigit := rfl
  rw [digitValue?, hdigit]

theorem digitsValue?_isSome (acc : Nat) (s : List Char) :
    (digitsValue? digitValue? 10 acc s).isSome = Semantic.isDigits s := by
  induction s generalizing acc with
  | nil => rfl
  | cons c s ih =>
      rw [digitsValue?, digitValue?_eq, Semantic.isDigits, List.all_cons]
      cases c.isDigit with
      | false => rfl
      | true => exact ih _

theorem natural?_isSome (s : List Char) :
    (natural? s).isSome = (!s.isEmpty && Semantic.isDigits s) := by
  cases s with
  | nil => rfl
  | cons c s => exact digitsValue?_isSome 0 (c :: s)

theorem toNat_of_isDigit {c : Char} (h : c.isDigit = true) : 48 ≤ c.toNat ∧ c.toNat ≤ 57 := by
  simpa [Char.isDigit, UInt32.le_iff_toNat_le] using h

theorem digitsValue?_cons {acc n : Nat} {c : Char} {s : List Char}
    (h : digitsValue? digitValue? 10 acc (c :: s) = some n) :
    c.isDigit = true ∧ digitsValue? digitValue? 10 (acc * 10 + (c.toNat - 48)) s = some n := by
  rw [digitsValue?, digitValue?_eq] at h
  cases hc : c.isDigit with
  | false => simp [hc] at h
  | true =>
      rw [hc] at h
      exact ⟨rfl, h⟩

theorem digitsValue?_bounds {acc n : Nat} {s : List Char}
    (h : digitsValue? digitValue? 10 acc s = some n) :
    acc * 10 ^ s.length ≤ n ∧ n < (acc + 1) * 10 ^ s.length := by
  induction s generalizing acc with
  | nil =>
      obtain rfl : acc = n := Option.some.inj h
      simp
  | cons c s ih =>
      obtain ⟨hc, hs⟩ := digitsValue?_cons h
      obtain ⟨hlow, hhigh⟩ := ih hs
      have hdigit := toNat_of_isDigit hc
      rw [List.length_cons, Nat.pow_succ', ← Nat.mul_assoc, ← Nat.mul_assoc]
      constructor
      · exact Nat.le_trans (Nat.mul_le_mul_right _ (by omega)) hlow
      · exact Nat.lt_of_lt_of_le hhigh (Nat.mul_le_mul_right _ (by omega))

theorem compare_mul_add {m n d e : Nat} (hd : d < 10) (he : e < 10) :
    compare (m * 10 + d) (n * 10 + e) = (compare m n).then (compare d e) := by
  cases h : compare m n with
  | lt =>
      rw [Nat.compare_eq_lt] at h
      exact Nat.compare_eq_lt.mpr (by omega)
  | gt =>
      rw [Nat.compare_eq_gt] at h
      exact Nat.compare_eq_gt.mpr (by omega)
  | eq =>
      rw [Nat.compare_eq_eq] at h
      subst h
      rw [Ordering.eq_then]
      simp only [Nat.compare_eq_ite_lt]
      grind

theorem compare_digitsValue? {acc acc' m n : Nat} {s t : List Char} (hlength : s.length = t.length)
    (hs : digitsValue? digitValue? 10 acc s = some m)
    (ht : digitsValue? digitValue? 10 acc' t = some n) :
    compare m n = (compare acc acc').then (compareText s t) := by
  induction s generalizing acc acc' t with
  | nil =>
      obtain rfl := List.length_eq_zero_iff.mp hlength.symm
      obtain rfl := Option.some.inj hs
      obtain rfl := Option.some.inj ht
      exact Ordering.then_eq.symm
  | cons c s ih =>
      cases t with
      | nil => cases hlength
      | cons d t =>
          obtain ⟨hc, hs⟩ := digitsValue?_cons hs
          obtain ⟨hd, ht⟩ := digitsValue?_cons ht
          have hcRange := toNat_of_isDigit hc
          have hdRange := toNat_of_isDigit hd
          have hdigit : compare (c.toNat - 48) (d.toNat - 48) = compare c.toNat d.toNat := by
            simp only [Nat.compare_eq_ite_lt]
            grind
          rw [ih (Nat.succ.inj hlength) hs ht, compare_mul_add (by omega) (by omega), hdigit,
            Ordering.then_assoc, compareText]

theorem natural?_bounds {s : List Char} {n : Nat} (h : natural? s = some n)
    (hzero : Semantic.hasLeadingZero s = false) :
    n < 10 ^ s.length ∧ (2 ≤ s.length → 10 ^ (s.length - 1) ≤ n) := by
  cases s with
  | nil => cases h
  | cons c s =>
      obtain ⟨-, hhigh⟩ := digitsValue?_bounds (s := c :: s) h
      refine ⟨by simpa using hhigh, ?_⟩
      intro hlength
      obtain ⟨hc, hs⟩ := digitsValue?_cons h
      obtain ⟨hlow, -⟩ := digitsValue?_bounds hs
      have hdigit := toNat_of_isDigit hc
      have hpos : 48 ≠ c.toNat := by
        intro hc
        obtain rfl : c = '0' := Char.toNat_inj.mp hc.symm
        cases s with
        | nil => simp at hlength
        | cons d s => cases hzero
      have hone : 1 ≤ 0 * 10 + (c.toNat - 48) := by omega
      exact Nat.le_trans (Nat.le_mul_of_pos_left _ hone) hlow

/-- Numbers without leading zeros compare by their lengths, and those of one length as texts. -/
theorem compare_natural? {s t : List Char} {m n : Nat} (hs : natural? s = some m)
    (ht : natural? t = some n) (hszero : Semantic.hasLeadingZero s = false)
    (htzero : Semantic.hasLeadingZero t = false) :
    compare m n = (compare s.length t.length).then (compareText s t) := by
  have hsBounds := natural?_bounds hs hszero
  have htBounds := natural?_bounds ht htzero
  have hsne : s ≠ [] := by
    rintro rfl
    cases hs
  have htne : t ≠ [] := by
    rintro rfl
    cases ht
  have hspos := List.length_pos_iff.mpr hsne
  have htpos := List.length_pos_iff.mpr htne
  cases h : compare s.length t.length with
  | lt =>
      rw [Nat.compare_eq_lt] at h
      have hpow : 10 ^ s.length ≤ 10 ^ (t.length - 1) :=
        Nat.pow_le_pow_right (by decide) (by omega)
      have hlow := htBounds.2 (by omega)
      exact Nat.compare_eq_lt.mpr (by omega)
  | gt =>
      rw [Nat.compare_eq_gt] at h
      have hpow : 10 ^ t.length ≤ 10 ^ (s.length - 1) :=
        Nat.pow_le_pow_right (by decide) (by omega)
      have hlow := hsBounds.2 (by omega)
      exact Nat.compare_eq_gt.mpr (by omega)
  | eq =>
      rw [Nat.compare_eq_eq] at h
      cases s with
      | nil => cases hs
      | cons c s =>
          cases t with
          | nil => cases ht
          | cons d t => exact compare_digitsValue? (s := c :: s) (t := d :: t) h hs ht

/-- The numbers in the prerelease are all below the bound of the other numbers. -/
def Semantic.IsBounded (v : Semantic) : Prop :=
  ∀ identifier ∈ v.prerelease, ∀ n ∈ natural? identifier, n < numberBound

theorem dropPlus_of_all {p : Char → Bool} {s : List Char} (hplus : p '+' = false)
    (h : s.all p = true) : dropPlus s = s := by
  rw [dropPlus.eq_def]
  split
  next => simp [hplus] at h
  next => rfl

theorem isDigits_of_natural? {s : List Char} {n : Nat} (h : natural? s = some n) :
    Semantic.isDigits s = true := by
  have hsome := natural?_isSome s
  rw [h, Option.isSome_some, eq_comm, Bool.and_eq_true] at hsome
  exact hsome.2

theorem component?_of_number {s : List Char} {n : Nat} (h : Semantic.number? s = some n) :
    component? s = some n := by
  rw [Semantic.number?] at h
  split at h
  next => cases h
  next =>
    have hdigits := isDigits_of_natural? (Option.filter_eq_some_iff.mp h).1
    rw [component?, boundedNatural?, dropPlus_of_all (by decide) hdigits]
    exact h

theorem component?_of_identifier {s : List Char} (h : Semantic.isIdentifier s = true)
    (hbound : ∀ n ∈ natural? s, n < Semantic.numberBound) : component? s = natural? s := by
  rw [Semantic.isIdentifier, Bool.and_eq_true] at h
  rw [component?, boundedNatural?, dropPlus_of_all (by decide) h.2]
  cases hs : natural? s with
  | none => rfl
  | some n => exact Option.filter_some_pos (decide_eq_true (hbound n hs))

theorem isDigits_of_identifier {s : List Char} (h : Semantic.isIdentifier s = true) :
    Semantic.isDigits s = (natural? s).isSome := by
  rw [Semantic.isIdentifier, Bool.and_eq_true] at h
  rw [natural?_isSome, h.1, Bool.true_and]

theorem compareLooseIdentifier_of_prerelease {s t : List Char}
    (hs : Semantic.isPrereleaseIdentifier s = true) (ht : Semantic.isPrereleaseIdentifier t = true)
    (hsBound : ∀ n ∈ natural? s, n < Semantic.numberBound)
    (htBound : ∀ n ∈ natural? t, n < Semantic.numberBound) :
    compareLooseIdentifier s t = Semantic.compareIdentifier s t := by
  rw [Semantic.isPrereleaseIdentifier, Bool.and_eq_true] at hs ht
  have hsZero := hs.2
  have htZero := ht.2
  rw [isDigits_of_identifier hs.1] at hsZero
  rw [isDigits_of_identifier ht.1] at htZero
  rw [compareLooseIdentifier, Semantic.compareIdentifier, component?_of_identifier hs.1 hsBound,
    component?_of_identifier ht.1 htBound, isDigits_of_identifier hs.1,
    isDigits_of_identifier ht.1]
  cases hm : natural? s with
  | none => cases natural? t <;> rfl
  | some m =>
      cases hn : natural? t with
      | none => rfl
      | some n =>
          rw [hm] at hsZero
          rw [hn] at htZero
          exact compare_natural? hm hn (by simpa using hsZero) (by simpa using htZero)

theorem compareLooseIdentifiers_of_prerelease {as bs : List (List Char)}
    (has : ∀ a ∈ as, Semantic.isPrereleaseIdentifier a = true)
    (hbs : ∀ b ∈ bs, Semantic.isPrereleaseIdentifier b = true)
    (hasBound : ∀ a ∈ as, ∀ n ∈ natural? a, n < Semantic.numberBound)
    (hbsBound : ∀ b ∈ bs, ∀ n ∈ natural? b, n < Semantic.numberBound) :
    compareLooseIdentifiers as bs = Semantic.compareIdentifiers as bs := by
  induction as generalizing bs with
  | nil => cases bs <;> rfl
  | cons a as ih =>
      cases bs with
      | nil => rfl
      | cons b bs =>
          rw [List.forall_mem_cons] at has hbs hasBound hbsBound
          rw [compareLooseIdentifiers, Semantic.compareIdentifiers,
            compareLooseIdentifier_of_prerelease has.1 hbs.1 hasBound.1 hbsBound.1,
            ih has.2 hbs.2 hasBound.2 hbsBound.2]

theorem prerelease?_eq_some {prerelease : Option (List Char)} {identifiers : List (List Char)}
    (h : Semantic.prerelease? prerelease = some identifiers) :
    (prerelease = none ∧ identifiers = []) ∨ ∃ s, prerelease = some s ∧
      identifiers = split '.' s ∧ ∀ a ∈ split '.' s, Semantic.isPrereleaseIdentifier a = true := by
  cases prerelease with
  | none =>
      obtain rfl : [] = identifiers := Option.some.inj h
      exact .inl ⟨rfl, rfl⟩
  | some s =>
      simp only [Semantic.prerelease?] at h
      split at h
      next hall => exact .inr ⟨s, rfl, (Option.some.inj h).symm, List.all_eq_true.mp hall⟩
      next => cases h

theorem compareLoosePrerelease_of_semantic {p q : Option (List Char)} {v w : Semantic}
    (hp : Semantic.prerelease? p = some v.prerelease)
    (hq : Semantic.prerelease? q = some w.prerelease) (hv : v.IsBounded) (hw : w.IsBounded) :
    compareLoosePrerelease p q = Semantic.comparePrerelease v.prerelease w.prerelease := by
  rw [Semantic.IsBounded] at hv hw
  rw [compareLoosePrerelease_eq, comparePrerelease_eq]
  obtain ⟨rfl, hv'⟩ | ⟨s, rfl, hv', hs⟩ := prerelease?_eq_some hp <;>
    obtain ⟨rfl, hw'⟩ | ⟨t, rfl, hw', ht⟩ := prerelease?_eq_some hq <;>
      rw [hv', hw'] <;> simp only [byKind, Option.isNone_none, Option.isNone_some,
        List.isEmpty_nil, List.isEmpty_eq_false_iff.mpr (split_ne_nil _ _)]
  · rfl
  · rw [hv'] at hv
    rw [hw'] at hw
    exact compareLooseIdentifiers_of_prerelease hs ht hv hw

theorem semantic?_eq_some {s : String} {v : Semantic} (h : semantic? s = some v) :
    ∃ major minor patch, split '.' (parts (bare s)).1 = [major, minor, patch] ∧
      Semantic.number? major = some v.major ∧ Semantic.number? minor = some v.minor ∧
      Semantic.number? patch = some v.patch ∧
      Semantic.prerelease? (parts (bare s)).2 = some v.prerelease := by
  rw [semantic?, Semantic.ofChars?] at h
  dsimp only at h
  split at h
  next =>
    split at h
    next major minor patch identifiers hcore hprerelease =>
      cases hmajor : Semantic.number? major with
      | none => simp [hmajor] at h
      | some m =>
          cases hminor : Semantic.number? minor with
          | none => simp [hmajor, hminor] at h
          | some n =>
              cases hpatch : Semantic.number? patch with
              | none => simp [hmajor, hminor, hpatch] at h
              | some p =>
                  simp only [hmajor, hminor, hpatch] at h
                  cases h
                  exact ⟨major, minor, patch, hcore, hmajor, hminor, hpatch, hprerelease⟩
    next => cases h
  next => cases h

/-- Where numbers are bounded, precedence is what the lenient comparison comes to. -/
theorem compareLenient_of_semantic {a b : String} {v w : Semantic} (ha : semantic? a = some v)
    (hb : semantic? b = some w) (hv : v.IsBounded) (hw : w.IsBounded) :
    compareLenient a b = v.precedence w := by
  obtain ⟨major, minor, patch, hcore, hmajor, hminor, hpatch, hprerelease⟩ := semantic?_eq_some ha
  obtain ⟨major', minor', patch', hcore', hmajor', hminor', hpatch', hprerelease'⟩ :=
    semantic?_eq_some hb
  have hcomponent {s t : List Char} {m n : Nat} (hs : Semantic.number? s = some m)
      (ht : Semantic.number? t = some n) : compareComponent s t = compare m n := by
    rw [compareComponent, component?_of_number hs, component?_of_number ht]
  have hcores : compareCores [major, minor, patch] [major', minor', patch'] =
      (compare v.major w.major).then ((compare v.minor w.minor).then
        (compare v.patch w.patch)) := by
    simp only [compareCores, hcomponent hmajor hmajor', hcomponent hminor hminor',
      hcomponent hpatch hpatch', Ordering.then_eq]
  show (compareCores (split '.' (parts (bare a)).1) (split '.' (parts (bare b)).1)).then
    (compareLoosePrerelease (parts (bare a)).2 (parts (bare b)).2) = _
  rw [hcore, hcore', hcores,
    compareLoosePrerelease_of_semantic hprerelease hprerelease' hv hw, Semantic.precedence,
    Ordering.then_assoc, Ordering.then_assoc]

theorem compareVersions_of_bounded {a b : String} (ha : ∀ v ∈ semantic? a, v.IsBounded)
    (hb : ∀ w ∈ semantic? b, w.IsBounded) : compareVersions a b = compareLenient a b := by
  rw [compareVersions]
  split
  next v w hv hw => exact (compareLenient_of_semantic hv hw (ha v hv) (hb w hw)).symm
  next => rfl

theorem compareVersions_swap (a b : String) :
    compareVersions b a = (compareVersions a b).swap := by
  have hlenient : compareLenient b a = (compareLenient a b).swap := OrientedCmp.eq_swap
  rw [compareVersions, compareVersions]
  cases semantic? a with
  | none => cases semantic? b <;> exact hlenient
  | some v =>
      cases semantic? b with
      | none => exact hlenient
      | some w => exact precedence_transCmp.eq_swap

/-- A transitive comparison that is equal over two steps up is equal in each of them. -/
theorem ne_gt_trans_of_transCmp {α : Type} {cmp : α → α → Ordering} [TransCmp cmp] {a b c : α}
    (hab : cmp a b ≠ .gt) (hbc : cmp b c ≠ .gt) :
    cmp a c ≠ .gt ∧ (cmp a c = .eq → cmp a b = .eq ∧ cmp b c = .eq) := by
  have hab' := Ordering.isLE_iff_ne_gt.mpr hab
  have hbc' := Ordering.isLE_iff_ne_gt.mpr hbc
  refine ⟨Ordering.isLE_iff_ne_gt.mp (TransCmp.isLE_trans hab' hbc'), ?_⟩
  intro hac
  have hca : (cmp c a).isLE := Ordering.isLE_of_eq_eq (OrientedCmp.eq_symm hac)
  have hba : (cmp b a).isLE := TransCmp.isLE_trans hbc' hca
  have hcb : (cmp c b).isLE := TransCmp.isLE_trans hca hab'
  exact ⟨OrientedCmp.isLE_antisymm hab' hba, OrientedCmp.isLE_antisymm hbc' hcb⟩

/-- The order is total, and it is transitive among semantic versions and among any versions whose
numbers are bounded. -/
theorem compareVersions_preorder (a b c : String) :
    compareVersions a a = .eq ∧ compareVersions b a = (compareVersions a b).swap ∧
      ((∀ s ∈ [a, b, c], (semantic? s).isSome) ∨
        (∀ s ∈ [a, b, c], ∀ v ∈ semantic? s, v.IsBounded) →
      compareVersions a b ≠ .gt → compareVersions b c ≠ .gt →
      compareVersions a c ≠ .gt ∧
        (compareVersions a c = .eq → compareVersions a b = .eq ∧ compareVersions b c = .eq)) := by
  refine ⟨?_, compareVersions_swap a b, ?_⟩
  · have hself := compareVersions_swap a a
    cases h : compareVersions a a <;> simp [h] at hself ⊢
  · simp only [List.forall_mem_cons]
    rintro (⟨ha, hb, hc, -⟩ | ⟨ha, hb, hc, -⟩)
    · obtain ⟨u, hu⟩ := Option.isSome_iff_exists.mp ha
      obtain ⟨v, hv⟩ := Option.isSome_iff_exists.mp hb
      obtain ⟨w, hw⟩ := Option.isSome_iff_exists.mp hc
      simp only [compareVersions, hu, hv, hw]
      exact ne_gt_trans_of_transCmp
    · rw [compareVersions_of_bounded ha hb, compareVersions_of_bounded hb hc,
        compareVersions_of_bounded ha hc]
      exact ne_gt_trans_of_transCmp

/-- A prerelease with two components, and the release with two and with three. -/
theorem compareVersions_preorder_mixed :
    (∀ s ∈ ["1.0-rc.1", "1.0", "1.0.0"], ∀ v ∈ semantic? s, v.IsBounded) ∧
      compareVersions "1.0-rc.1" "1.0" ≠ .gt ∧ compareVersions "1.0" "1.0.0" ≠ .gt ∧
      compareVersions "1.0-rc.1" "1.0.0" ≠ .gt := by
  have hbounded : ∀ s ∈ ["1.0-rc.1", "1.0", "1.0.0"], ∀ v ∈ semantic? s, v.IsBounded := by
    simp only [Semantic.IsBounded]
    decide +kernel
  have hprerelease : compareVersions "1.0-rc.1" "1.0" ≠ .gt := by
    simp only [compareVersions, compareLenient,
      compareCores_eq (Nat.le_max_left _ _) (Nat.le_max_right _ _)]
    decide +kernel
  have hcomponents : compareVersions "1.0" "1.0.0" ≠ .gt := by
    simp only [compareVersions, compareLenient,
      compareCores_eq (Nat.le_max_left _ _) (Nat.le_max_right _ _)]
    decide +kernel
  obtain ⟨-, -, htrans⟩ := compareVersions_preorder "1.0-rc.1" "1.0" "1.0.0"
  exact ⟨hbounded, hprerelease, hcomponents, (htrans (.inr hbounded) hprerelease hcomponents).1⟩

/-- A number too long to be counted with lies after a shorter one and, as a text, before it. -/
theorem compareVersions_circle :
    compareVersions "1.0-50000000000000000000" "1.0.0-99999999999999999999" = .lt ∧
      compareVersions "1.0.0-99999999999999999999" "1.0.0-100000000000000000000" = .lt ∧
      compareVersions "1.0-50000000000000000000" "1.0.0-100000000000000000000" = .gt := by
  simp only [compareVersions, compareLenient,
    compareCores_eq (Nat.le_max_left _ _) (Nat.le_max_right _ _)]
  decide +kernel

end RegistryConsole.Version
