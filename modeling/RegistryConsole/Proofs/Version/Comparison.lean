import RegistryConsole.Version.Order
/-!
# Comparisons of versions and of their parts

Every comparison of parts turns around with its arguments and is transitive, and so are the two
comparisons of whole versions: precedence and the lenient one. Three shapes are behind all of them:
the lexicographic order of lists, two kinds of things of which one comes last (`byKind`), and lists
that go on with zeros (`compareCores_eq`).
-/
namespace RegistryConsole.Version

open Text Std

theorem transCmp_comap {α β : Type} (cmp : α → α → Ordering) [TransCmp cmp] (f : β → α) :
    TransCmp fun a b => cmp (f a) (f b) where
  eq_swap := OrientedCmp.eq_swap
  isLE_trans := TransCmp.isLE_trans

/-- Things of one kind come after all others, and each kind has an order of its own. -/
def byKind {α : Type} (late : α → Bool) (early last : α → α → Ordering) (a b : α) : Ordering :=
  match late a, late b with
  | false, false => early a b
  | false, true => .lt
  | true, false => .gt
  | true, true => last a b

theorem byKind_transCmp {α : Type} (late : α → Bool) (early last : α → α → Ordering)
    [TransCmp early] [TransCmp last] : TransCmp (byKind late early last) where
  eq_swap {a b} := by
    cases ha : late a <;> cases hb : late b <;> simp only [byKind, ha, hb]
    case false.false => exact OrientedCmp.eq_swap
    case true.true => exact OrientedCmp.eq_swap
    all_goals rfl
  isLE_trans {a b c} := by
    intro hab hbc
    cases ha : late a <;> cases hb : late b <;> cases hc : late c <;>
      simp only [byKind, ha, hb, hc] at hab hbc ⊢
    case false.false.false => exact TransCmp.isLE_trans hab hbc
    case true.true.true => exact TransCmp.isLE_trans hab hbc
    -- a step down from the late kind is none of the two
    all_goals first
      | rfl
      | exact absurd hab (by decide)
      | exact absurd hbc (by decide)

theorem compareText_eq : compareText = List.compareLex (compareOn Char.toNat) := by
  funext a b
  induction a generalizing b with
  | nil => cases b <;> rfl
  | cons c a ih =>
      cases b with
      | nil => rfl
      | cons d b =>
          rw [compareText, ih, List.compareLex_cons_cons]
          rfl

instance compareText_transCmp : TransCmp compareText := by
  rw [compareText_eq]
  infer_instance

theorem compareComponent_eq : compareComponent =
    byKind (fun a => (component? a).isSome) compareText (compareOn component?) := by
  funext a b
  rw [compareComponent, byKind, compareOn]
  cases component? a <;> cases component? b <;> rfl

instance compareComponent_transCmp : TransCmp compareComponent := by
  rw [compareComponent_eq]
  exact byKind_transCmp _ _ _

theorem compareLooseIdentifier_eq : compareLooseIdentifier =
    byKind (fun a => (component? a).isNone) (compareOn component?) compareText := by
  funext a b
  rw [compareLooseIdentifier, byKind, compareOn]
  cases component? a <;> cases component? b <;> rfl

instance compareLooseIdentifier_transCmp : TransCmp compareLooseIdentifier := by
  rw [compareLooseIdentifier_eq]
  exact byKind_transCmp _ _ _

theorem compareIdentifier_eq : Semantic.compareIdentifier =
    byKind (fun a => !Semantic.isDigits a) (compareLex (compareOn List.length) compareText)
      compareText := by
  funext a b
  rw [Semantic.compareIdentifier, byKind]
  cases Semantic.isDigits a <;> cases Semantic.isDigits b <;> rfl

instance compareIdentifier_transCmp : TransCmp Semantic.compareIdentifier := by
  rw [compareIdentifier_eq]
  exact byKind_transCmp _ _ _

theorem compareIdentifiers_eq :
    Semantic.compareIdentifiers = List.compareLex Semantic.compareIdentifier := by
  funext as bs
  induction as generalizing bs with
  | nil => cases bs <;> rfl
  | cons a as ih =>
      cases bs with
      | nil => rfl
      | cons b bs => rw [Semantic.compareIdentifiers, ih, List.compareLex_cons_cons]

theorem compareLooseIdentifiers_eq :
    compareLooseIdentifiers = List.compareLex compareLooseIdentifier := by
  funext as bs
  induction as generalizing bs with
  | nil => cases bs <;> rfl
  | cons a as ih =>
      cases bs with
      | nil => rfl
      | cons b bs => rw [compareLooseIdentifiers, ih, List.compareLex_cons_cons]

theorem comparePrerelease_eq : Semantic.comparePrerelease =
    byKind List.isEmpty Semantic.compareIdentifiers (compareOn List.length) := by
  funext as bs
  cases as <;> cases bs <;> rfl

instance comparePrerelease_transCmp : TransCmp Semantic.comparePrerelease := by
  rw [comparePrerelease_eq, compareIdentifiers_eq]
  exact byKind_transCmp _ _ _

theorem compareLoosePrerelease_eq : compareLoosePrerelease =
    byKind Option.isNone
      (fun a b => compareLooseIdentifiers (split '.' (a.getD [])) (split '.' (b.getD [])))
      (compareOn Option.isSome) := by
  funext a b
  cases a <;> cases b <;> rfl

instance compareLoosePrerelease_transCmp : TransCmp compareLoosePrerelease := by
  rw [compareLoosePrerelease_eq, compareLooseIdentifiers_eq]
  have := transCmp_comap (List.compareLex compareLooseIdentifier)
    fun a : Option (List Char) => split '.' (a.getD [])
  exact byKind_transCmp _ _ _

/-- The components of a core, with zeros up to a length. -/
def padded (length : Nat) (core : List (List Char)) : List (List Char) :=
  core.rightpad length ['0']

theorem padded_nil (length : Nat) : padded (length + 1) [] = ['0'] :: padded length [] := rfl

theorem padded_cons (length : Nat) (a : List Char) (core : List (List Char)) :
    padded (length + 1) (a :: core) = a :: padded length core := by
  rw [padded, List.rightpad, List.length_cons, Nat.add_sub_add_right]
  rfl

theorem compareCores_eq {as bs : List (List Char)} {length : Nat} (ha : as.length ≤ length)
    (hb : bs.length ≤ length) :
    compareCores as bs =
      List.compareLex compareComponent (padded length as) (padded length bs) := by
  induction length generalizing as bs with
  | zero =>
      rw [List.length_eq_zero_iff.mp (Nat.le_zero.mp ha),
        List.length_eq_zero_iff.mp (Nat.le_zero.mp hb), compareCores]
      rfl
  | succ length ih =>
      cases as with
      | nil =>
          cases bs with
          | nil =>
              rw [compareCores]
              exact ReflCmp.compare_self.symm
          | cons b bs =>
              rw [compareCores, ih (Nat.zero_le _) (Nat.le_of_succ_le_succ hb), padded_nil,
                padded_cons, List.compareLex_cons_cons]
      | cons a as =>
          cases bs with
          | nil =>
              rw [compareCores, ih (Nat.le_of_succ_le_succ ha) (Nat.zero_le _), padded_nil,
                padded_cons, List.compareLex_cons_cons]
          | cons b bs =>
              rw [compareCores, ih (Nat.le_of_succ_le_succ ha) (Nat.le_of_succ_le_succ hb),
                padded_cons, padded_cons, List.compareLex_cons_cons]

instance compareCores_transCmp : TransCmp compareCores where
  eq_swap {as bs} := by
    have ha := Nat.le_max_left as.length bs.length
    have hb := Nat.le_max_right as.length bs.length
    rw [compareCores_eq ha hb, compareCores_eq hb ha]
    exact OrientedCmp.eq_swap
  isLE_trans {as bs cs} := by
    have ha : as.length ≤ max as.length (max bs.length cs.length) := by omega
    have hb : bs.length ≤ max as.length (max bs.length cs.length) := by omega
    have hc : cs.length ≤ max as.length (max bs.length cs.length) := by omega
    rw [compareCores_eq ha hb, compareCores_eq hb hc, compareCores_eq ha hc]
    exact TransCmp.isLE_trans

instance precedence_transCmp : TransCmp Semantic.precedence :=
  have := transCmp_comap Semantic.comparePrerelease Semantic.prerelease
  inferInstanceAs <| TransCmp <| compareLex (compareOn Semantic.major) <|
    compareLex (compareOn Semantic.minor) <| compareLex (compareOn Semantic.patch) fun a b =>
      Semantic.comparePrerelease a.prerelease b.prerelease

instance compareLenient_transCmp : TransCmp compareLenient :=
  have := transCmp_comap compareCores fun s => split '.' (parts (bare s)).1
  have := transCmp_comap compareLoosePrerelease fun s => (parts (bare s)).2
  inferInstanceAs <| TransCmp <| compareLex
    (fun a b => compareCores (split '.' (parts (bare a)).1) (split '.' (parts (bare b)).1))
    fun a b => compareLoosePrerelease (parts (bare a)).2 (parts (bare b)).2

end RegistryConsole.Version
