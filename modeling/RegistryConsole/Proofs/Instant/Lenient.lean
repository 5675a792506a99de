import RegistryConsole.Proofs.Instant.Rfc3339
import RegistryConsole.Proofs.Text.Blank
/-!
# The lenient form of dates and times

What `Instant.text` writes is read back by the lenient reader too (`lenient_chars`). The blanks it
skips are none of the characters written, and of the numbers it reads none goes on into the next
part.
-/
namespace RegistryConsole.Instant

open Text

theorem not_isBlank_of_digit {c : Char} (h : (digitValue? c).isSome) : isBlank c = false := by
  have hrange : '0' ≤ c ∧ c ≤ '9' := by
    simpa [digitValue?] using h
  have hlow : 48 ≤ c.toNat := hrange.1
  have hhigh : c.toNat ≤ 57 := hrange.2
  exact not_isBlank_of_visible (by omega) (by omega)

theorem skipBlanks_cons {c : Char} (h : isBlank c = false) (rest : List Char) :
    skipBlanks (c :: rest) = c :: rest := by
  rw [skipBlanks, List.dropWhile_cons_of_neg (by simp [h])]

theorem decimalPadded_cons {width : Nat} (hpos : 1 ≤ width) (n : Nat) :
    ∃ c digits, decimalPadded width n = c :: digits ∧ (digitValue? c).isSome := by
  have hdigits := decimalPadded_digits width n
  have hlength := decimalPadded_length width n
  cases hnumber : decimalPadded width n with
  | nil =>
      rw [hnumber, List.length_nil] at hlength
      omega
  | cons c digits => exact ⟨c, digits, rfl, hdigits c (by rw [hnumber]; exact List.mem_cons_self)⟩

theorem skipBlanks_decimalPadded {width : Nat} (hpos : 1 ≤ width) (n : Nat) (rest : List Char) :
    skipBlanks (decimalPadded width n ++ rest) = decimalPadded width n ++ rest := by
  obtain ⟨c, digits, hnumber, hc⟩ := decimalPadded_cons hpos n
  rw [hnumber, List.cons_append, skipBlanks_cons (not_isBlank_of_digit hc)]

theorem readShort_decimalPadded {low high n : Nat} (h : low ≤ n ∧ n ≤ high) (hn : n < 100)
    (rest : List Char) : readShort low high (decimalPadded 2 n ++ rest) = .ok (n, rest) := by
  rw [readShort, skipBlanks_decimalPadded (by decide), readNumber_two (by decide) n rest hn]
  simp only [bind, Except.bind, ranged_ok low high n h, pure, Except.pure]

theorem readYear_decimalPadded {n : Nat} (hn : n < 10000) (rest : List Char) :
    readYear (decimalPadded 4 n ++ rest) = .ok ((n : Int), rest) := by
  have hbound : numberBound = 9223372036854775808 := rfl
  have hyearBound : yearBound = 2147483648 := rfl
  obtain ⟨c, digits, hnumber, hc⟩ := decimalPadded_cons (show 1 ≤ 4 by decide) n
  have hread := readNumber_exact (show 1 ≤ 4 by decide) n rest (by omega) (by omega)
  have hsign : c ≠ '-' ∧ c ≠ '+' := by
    constructor <;> rintro rfl <;> simp [digitValue?] at hc
  rw [hnumber, List.cons_append] at hread
  have hrange : (decide ((n : Int) < -(yearBound : Int)) || decide ((yearBound : Int) ≤ n)) =
      false := by
    rw [hyearBound]
    simp only [Bool.or_eq_false_iff, decide_eq_false_iff_not]
    omega
  rw [readYear, hnumber, List.cons_append, skipBlanks_cons (not_isBlank_of_digit hc)]
  split
  next heq => exact absurd (List.cons.inj heq).1 hsign.1
  next heq => exact absurd (List.cons.inj heq).1 hsign.2
  next =>
    simp only [hread, Except.map, bind, Except.bind, hrange, Bool.false_eq_true, if_false, pure,
      Except.pure]

theorem lenientOffset_letter : lenientOffset (skipBlanks Zone.letter.text) = .ok (0, []) := by
  decide

theorem lenientTime_chars (t : Instant) (hvalid : t.IsValid) (hyear : t.HasFourDigitYear) :
    lenientTime (Date.ofDayNumber t.day) (decimalPadded 2 (t.secondOfDay / 3600) ++ ':' ::
        (decimalPadded 2 (t.secondOfDay / 60 % 60) ++ ':' ::
          (decimalPadded 2 (t.secondOfDay % 60 + t.nanos / second) ++
            (fractionText (t.nanos % second) ++ Zone.letter.text)))) = .ok t := by
  have hzone : Zone.letter.text = ['Z'] := rfl
  have hfraction := readOptionalFraction_fractionText (t.nanos % second)
    (Nat.mod_lt _ (by decide)) 'Z' [] (by decide) (by decide)
  rw [← hzone] at hfraction
  have hcolon (rest : List Char) : skipBlanks (':' :: rest) = ':' :: rest :=
    skipBlanks_cons (by decide) rest
  have hend : skipBlanks [] = [] := rfl
  have hclock := t.secondOfDay_lt
  have hsecond := hvalid.writtenSecond.1
  simp only [lenientTime, readShort_decimalPadded
      (show 0 ≤ t.secondOfDay / 3600 ∧ t.secondOfDay / 3600 ≤ 23 by omega) (by omega),
    readShort_decimalPadded
      (show 0 ≤ t.secondOfDay / 60 % 60 ∧ t.secondOfDay / 60 % 60 ≤ 59 by omega) (by omega),
    readShort_decimalPadded ⟨Nat.zero_le _, hsecond⟩ (Nat.lt_of_le_of_lt hsecond (by decide)),
    hcolon, readChar_cons, hfraction, lenientOffset_letter, hend, bind, Except.bind,
    List.isEmpty_nil, if_true]
  exact instant_written t hvalid hyear

theorem lenient_chars (t : Instant) (hvalid : t.IsValid) (hyear : t.HasFourDigitYear) :
    lenient (chars .letter t) = .ok t := by
  obtain ⟨hmonth, hday, hlast⟩ := ofDayNumber_exists t.day
  have hlength := daysInMonth_le (Date.ofDayNumber t.day).year (Date.ofDayNumber t.day).month
  have htime := lenientTime_chars t hvalid hyear
  have hyearText := hyear.yearText
  have hdash (rest : List Char) : skipBlanks ('-' :: rest) = '-' :: rest :=
    skipBlanks_cons (by decide) rest
  obtain ⟨hlow, hhigh⟩ := hyear
  have hyearBack : (((Date.ofDayNumber t.day).year.toNat : Nat) : Int) =
      (Date.ofDayNumber t.day).year := by
    omega
  simp only [chars, hyearText, List.append_assoc, List.cons_append, lenient,
    readYear_decimalPadded (show (Date.ofDayNumber t.day).year.toNat < 10000 by omega), hdash,
    readChar_cons, readShort_decimalPadded hmonth (by omega),
    readShort_decimalPadded
      (show 1 ≤ (Date.ofDayNumber t.day).day ∧ (Date.ofDayNumber t.day).day ≤ 31 by omega)
      (by omega),
    bind, Except.bind, hyearBack, htime]
  rfl

end RegistryConsole.Instant
