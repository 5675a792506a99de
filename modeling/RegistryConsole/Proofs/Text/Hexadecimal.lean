import RegistryConsole.Proofs.Text.Case
import RegistryConsole.Text.Blank
import RegistryConsole.Text.Numeral
import Mathlib.Data.List.Nodup
import Mathlib.Tactic.IntervalCases
import Mathlib.Tactic.Ring
/-!
# Hexadecimal numerals

The value of a digit is its place in the row of digits, in either case (`hexValue?_eq_some_iff`). A
number that fits in a width of digits is what is read from them (`digitsValue?_hexPadded`).
-/
namespace RegistryConsole.Text

/-- The digits in the order of their values. -/
def hexDigits : List Char :=
  ['0', '1', '2', '3', '4', '5', '6', '7', '8', '9', 'a', 'b', 'c', 'd', 'e', 'f']

theorem forall_mem_hexDigits {p : Char → Prop} [DecidablePred p]
    (h : hexDigits.all (fun c => decide (p c)) = true) : ∀ c ∈ hexDigits, p c :=
  fun c hc => of_decide_eq_true (List.all_eq_true.mp h c hc)

theorem hexValue?_of_ascii : ∀ n < 0x80,
    hexValue? (Char.ofNat n) = hexDigits.idxOf? (Char.ofNat n).toLower := by
  decide +kernel

theorem ascii_of_mem_hexDigits : ∀ c ∈ hexDigits, c.toNat < 0x80 :=
  forall_mem_hexDigits (by decide)

theorem hexValue?_eq_idxOf? (c : Char) : hexValue? c = hexDigits.idxOf? c.toLower := by
  by_cases hascii : c.toNat < 0x80
  · have h := hexValue?_of_ascii c.toNat hascii
    rwa [Char.ofNat_toNat] at h
  · have hlower : c.toLower = c := (toLower_cases c).resolve_right (by omega)
    have hnone : hexDigits.idxOf? c = none := by
      rw [List.idxOf?_eq_none_iff]
      exact fun hmem => hascii (ascii_of_mem_hexDigits c hmem)
    have hbeyond (d : Char) (hd : d.toNat < 0x80) : ¬ c ≤ d := fun h => by
      have hle : c.toNat ≤ d.toNat := h
      omega
    simp [hlower, hnone, hexValue?, hbeyond '9' (by decide), hbeyond 'f' (by decide),
      hbeyond 'F' (by decide)]

theorem ascii_of_toLower_mem {c : Char} (h : c.toLower ∈ hexDigits) : c.toNat < 0x80 := by
  obtain hsame | ⟨-, hhigh, -⟩ := toLower_cases c
  · exact ascii_of_mem_hexDigits c (hsame ▸ h)
  · omega

theorem nodup_hexDigits : hexDigits.Nodup := by
  decide

theorem hexValue?_eq_some_iff {c : Char} {n : Nat} :
    hexValue? c = some n ↔ hexDigits[n]? = some c.toLower := by
  rw [hexValue?_eq_idxOf?, List.idxOf?_eq_some_iff, List.getElem?_eq_some_iff]
  constructor
  · rintro ⟨hn, hdigit, -⟩
    exact ⟨hn, hdigit⟩
  · rintro ⟨hn, hdigit⟩
    refine ⟨hn, hdigit, fun j hj hsame => ?_⟩
    have hindex := (nodup_hexDigits.getElem_inj_iff).mp (hsame.trans hdigit.symm)
    omega

theorem hexValue?_isSome_iff {c : Char} : (hexValue? c).isSome ↔ c.toLower ∈ hexDigits := by
  rw [hexValue?_eq_idxOf?, List.isSome_idxOf?]

theorem toLower_of_mem_hexDigits : ∀ c ∈ hexDigits, c.toLower = c :=
  forall_mem_hexDigits (by decide)

theorem not_isBlank_of_mem_hexDigits : ∀ c ∈ hexDigits, isBlank c = false :=
  forall_mem_hexDigits (by decide)

theorem getElem?_hexDigit {n : Nat} (h : n < 16) : hexDigits[n]? = some (hexDigit n) := by
  interval_cases n <;> rfl

theorem hexValue?_hexDigit {n : Nat} (h : n < 16) : hexValue? (hexDigit n) = some n := by
  have hdigit := getElem?_hexDigit h
  rw [hexValue?_eq_some_iff, toLower_of_mem_hexDigits _ (List.mem_of_getElem? hdigit), hdigit]

theorem hexPadded_length (width n : Nat) : (hexPadded width n).length = width := by
  induction width generalizing n with
  | zero => rfl
  | succ width ih => rw [hexPadded, List.length_append, ih, List.length_singleton]

theorem hexPadded_subset (width n : Nat) : hexPadded width n ⊆ hexDigits := by
  induction width generalizing n with
  | zero => exact List.nil_subset _
  | succ width ih =>
      have hlast := getElem?_hexDigit (Nat.mod_lt n (by decide : 16 > 0))
      rw [hexPadded]
      exact List.append_subset.mpr
        ⟨ih _, List.cons_subset.mpr ⟨List.mem_of_getElem? hlast, List.nil_subset _⟩⟩

theorem digitsValue?_cons_eq_some_iff {value? : Char → Option Nat} {base acc n : Nat} {c : Char}
    {s : List Char} : digitsValue? value? base acc (c :: s) = some n ↔
      ∃ d, value? c = some d ∧ digitsValue? value? base (acc * base + d) s = some n := by
  rw [digitsValue?]
  cases value? c with
  | none => simp
  | some d => simp

theorem digits_of_digitsValue? {acc n : Nat} {s : List Char}
    (h : digitsValue? hexValue? 16 acc s = some n) : ∀ c ∈ s, c.toLower ∈ hexDigits := by
  induction s generalizing acc with
  | nil => exact nofun
  | cons c s ih =>
      obtain ⟨d, hd, h⟩ := digitsValue?_cons_eq_some_iff.mp h
      exact List.forall_mem_cons.mpr ⟨List.mem_of_getElem? (hexValue?_eq_some_iff.mp hd), ih h⟩

theorem digitsValue?_append (value? : Char → Option Nat) (base acc : Nat) (s t : List Char) :
    digitsValue? value? base acc (s ++ t) =
      (digitsValue? value? base acc s).bind (digitsValue? value? base · t) := by
  induction s generalizing acc with
  | nil => rfl
  | cons c s ih =>
      rw [List.cons_append, digitsValue?, digitsValue?]
      cases value? c with
      | none => rfl
      | some d => exact ih _

theorem digitsValue?_hexPadded (acc width n : Nat) :
    digitsValue? hexValue? 16 acc (hexPadded width n) = some (acc * 16 ^ width + n % 16 ^ width) := by
  induction width generalizing n with
  | zero => simp [hexPadded, digitsValue?, Nat.mod_one]
  | succ width ih =>
      have hdigits : acc * 16 ^ (width + 1) + n % 16 ^ (width + 1) =
          (acc * 16 ^ width + n / 16 % 16 ^ width) * 16 + n % 16 := by
        rw [Nat.pow_succ', Nat.mod_mul]
        ring
      rw [hexPadded, digitsValue?_append, ih, Option.bind_some, digitsValue?,
        hexValue?_hexDigit (Nat.mod_lt n (by decide)), hdigits]
      rfl

theorem digitsValue?_hexPadded_of_lt {width n : Nat} (h : n < 16 ^ width) :
    digitsValue? hexValue? 16 0 (hexPadded width n) = some n := by
  rw [digitsValue?_hexPadded, Nat.zero_mul, Nat.zero_add, Nat.mod_eq_of_lt h]

theorem digitsValue?_zeros {s : List Char} (h : ∀ c ∈ s, c = '0') :
    digitsValue? hexValue? 16 0 s = some 0 := by
  induction s with
  | nil => rfl
  | cons c s ih =>
      rw [List.forall_mem_cons] at h
      rw [h.1]
      exact ih h.2

theorem exists_hexPadded_ne_zero {width n : Nat} (hpos : 0 < n) (h : n < 16 ^ width) :
    ∃ c ∈ hexPadded width n, c ≠ '0' := by
  by_contra hnone
  have hzero := digitsValue?_zeros fun c hc => by_contra fun hne => hnone ⟨c, hc, hne⟩
  rw [digitsValue?_hexPadded_of_lt h] at hzero
  exact absurd (Option.some.inj hzero) (by omega)

end RegistryConsole.Text
