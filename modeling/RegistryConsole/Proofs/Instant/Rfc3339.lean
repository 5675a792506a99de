import RegistryConsole.Instant.Rfc3339
import RegistryConsole.Proofs.Instant.Calendar
/-!
# Round trips of RFC 3339

The strict reader gives back every instant whose year has four digits, and refuses the text of any
other (`strict?_text`). A number written with a given count of digits is read back together with
whatever follows it.
-/
namespace RegistryConsole.Instant

open Text

theorem digitValue?_digit (n : Nat) :
    digitValue? (Char.ofNat ('0'.toNat + n % 10)) = some (n % 10) := by
  have h : n % 10 < 10 := Nat.mod_lt n (by decide)
  generalize n % 10 = d at h
  interval_cases d <;> decide

theorem decimalPadded_length (width n : Nat) : (decimalPadded width n).length = width := by
  induction width generalizing n with
  | zero => rfl
  | succ width ih => rw [decimalPadded, List.length_append, ih, List.length_singleton]

theorem decimalPadded_digits (width n : Nat) :
    ∀ c ∈ decimalPadded width n, (digitValue? c).isSome := by
  induction width generalizing n with
  | zero => simp [decimalPadded]
  | succ width ih =>
      intro c hc
      rw [decimalPadded, List.mem_append, List.mem_singleton] at hc
      rcases hc with hc | rfl
      · exact ih _ c hc
      · rw [digitValue?_digit]
        rfl

theorem le_octetsUpTo (limit : Nat) (s : List Char) (h : limit ≤ s.length) :
    limit ≤ octetsUpTo limit s := by
  induction s generalizing limit with
  | nil => simp_all
  | cons c rest ih =>
      cases limit with
      | zero => exact Nat.zero_le _
      | succ limit =>
          have hpos := Char.utf8Size_pos c
          have hlen : limit + 1 - c.utf8Size ≤ rest.length := by
            rw [List.length_cons] at h
            omega
          have hrest := ih (limit + 1 - c.utf8Size) hlen
          rw [octetsUpTo]
          omega

/-- Reading on from `acc` over the digits of a number. -/
theorem numberFrom_decimalPadded (acc width n more : Nat) (rest : List Char)
    (hn : n < 10 ^ width) (hbound : acc * 10 ^ width + n < numberBound) :
    numberFrom acc (width + more) (decimalPadded width n ++ rest) =
      numberFrom (acc * 10 ^ width + n) more rest := by
  induction width generalizing n more rest with
  | zero =>
      have hzero : n = 0 := by omega
      subst hzero
      simp [decimalPadded]
  | succ width ih =>
      have hsplit : acc * 10 ^ (width + 1) + n =
          (acc * 10 ^ width + n / 10) * 10 + n % 10 := by
        rw [Nat.pow_succ, ← Nat.mul_assoc]
        omega
      have hlow : n / 10 < 10 ^ width := by
        rw [Nat.pow_succ] at hn
        omega
      rw [decimalPadded, List.append_assoc, Nat.add_right_comm, Nat.add_assoc width,
        ih (n / 10) (more + 1) _ hlow (by omega), List.singleton_append, numberFrom,
        digitValue?_digit]
      dsimp only
      rw [← hsplit, if_neg (by omega)]

theorem readNumber_decimalPadded (least width n more : Nat) (rest : List Char)
    (hleast : least ≤ width) (hn : n < 10 ^ width) (hbound : n < numberBound) :
    readNumber least (width + more) (decimalPadded width n ++ rest) = numberFrom n more rest := by
  have hlen := decimalPadded_length width n
  have hoctets : ¬ octetsUpTo least (decimalPadded width n ++ rest) < least := by
    have := le_octetsUpTo least (decimalPadded width n ++ rest) (by simp [hlen]; omega)
    omega
  have hdigits : ((decimalPadded width n ++ rest).take least).all
      (fun c => (digitValue? c).isSome) = true := by
    rw [List.take_append_of_le_length (by omega), List.all_eq_true]
    intro c hc
    exact decimalPadded_digits width n c (List.mem_of_mem_take hc)
  rw [readNumber, if_neg hoctets, if_pos hdigits]
  have h := numberFrom_decimalPadded 0 width n more rest hn (by omega)
  rwa [Nat.zero_mul, Nat.zero_add] at h

theorem readNumber_exact {least width : Nat} (hleast : least ≤ width) (n : Nat) (rest : List Char)
    (hn : n < 10 ^ width) (hbound : n < numberBound) :
    readNumber least width (decimalPadded width n ++ rest) = .ok (n, rest) := by
  have h := readNumber_decimalPadded least width n 0 rest hleast hn hbound
  rw [Nat.add_zero] at h
  rw [h, numberFrom]

theorem readChar_cons (c : Char) (rest : List Char) : readChar c (c :: rest) = .ok rest := by
  rw [readChar, if_pos rfl]

theorem readFraction_decimalPadded (width n : Nat) (hpos : 1 ≤ width) (hwidth : width ≤ 9)
    (hn : n < 10 ^ width) (c : Char) (rest : List Char) (hc : digitValue? c = none) :
    readFraction (decimalPadded width n ++ c :: rest) = .ok (n * 10 ^ (9 - width), c :: rest) := by
  have hbound : n < numberBound := by
    have h : 10 ^ width ≤ 10 ^ 9 := Nat.pow_le_pow_right (by decide) hwidth
    have h' : (10 : Nat) ^ 9 < numberBound := by decide
    omega
  have hread : readNumber 1 9 (decimalPadded width n ++ c :: rest) = .ok (n, c :: rest) := by
    have h := readNumber_decimalPadded 1 width n (9 - width) (c :: rest) hpos hn hbound
    rw [Nat.add_sub_cancel' hwidth] at h
    rw [h]
    cases 9 - width with
    | zero => rw [numberFrom]
    | succ k => rw [numberFrom, hc]
  simp [readFraction, hread, decimalPadded_length, hc, bind, Except.bind, pure, Except.pure]

theorem readOptionalFraction_fractionText (nanos : Nat) (hnanos : nanos < second) (c : Char)
    (rest : List Char) (hc : digitValue? c = none) (hpoint : c ≠ '.') :
    readOptionalFraction (fractionText nanos ++ c :: rest) = .ok (nanos, c :: rest) := by
  have hsecond : second = 1000000000 := rfl
  rw [fractionText]
  split
  next h =>
    subst h
    rw [List.nil_append, readOptionalFraction]
    intro rest' heq
    exact hpoint (List.cons.inj heq).1
  next =>
    split
    next h =>
      rw [List.cons_append, readOptionalFraction,
        readFraction_decimalPadded 3 _ (by decide) (by decide) (by omega) c rest hc]
      congr 2
      omega
    next =>
      split
      next h =>
        rw [List.cons_append, readOptionalFraction,
          readFraction_decimalPadded 6 _ (by decide) (by decide) (by omega) c rest hc]
        congr 2
        omega
      next =>
        rw [List.cons_append, readOptionalFraction,
          readFraction_decimalPadded 9 _ (by decide) (by decide) (by omega) c rest hc,
          Nat.sub_self, Nat.pow_zero, Nat.mul_one]

/-- The nanoseconds stay below one second, or below two in the last second of a minute, which then
is followed by a leap second. -/
def IsValid (t : Instant) : Prop :=
  t.nanos < 2 * second ∧ (second ≤ t.nanos → t.seconds % 60 = 59)

/-- The year of an instant has four digits. -/
def HasFourDigitYear (t : Instant) : Prop :=
  0 ≤ (Date.ofDayNumber t.day).year ∧ (Date.ofDayNumber t.day).year ≤ 9999

instance (t : Instant) : Decidable t.IsValid :=
  inferInstanceAs (Decidable (_ ∧ _))

instance (t : Instant) : Decidable t.HasFourDigitYear :=
  inferInstanceAs (Decidable (_ ∧ _))

theorem ranged_ok (low high n : Nat) (h : low ≤ n ∧ n ≤ high) : ranged low high n = .ok () := by
  simp [ranged, h]

theorem readOffset_zero : readOffset .colon (Zone.numeric.text) = .ok (0, []) := by
  decide

theorem readNumber_two {least : Nat} (hleast : least ≤ 2) (n : Nat) (rest : List Char)
    (hn : n < 100) : readNumber least 2 (decimalPadded 2 n ++ rest) = .ok (n, rest) := by
  have hbound : numberBound = 9223372036854775808 := rfl
  exact readNumber_exact hleast n rest (by omega) (by omega)

theorem secondOfDay_lt (t : Instant) : t.secondOfDay < 86400 := by
  rw [secondOfDay, secondsPerDay]
  omega

theorem daysInMonth_le (year : Int) (month : Nat) : daysInMonth year month ≤ 31 := by
  rw [daysInMonth]
  split <;> split <;> omega

theorem IsValid.writtenSecond {t : Instant} (h : t.IsValid) :
    t.secondOfDay % 60 + t.nanos / second ≤ 60 ∧
      (t.secondOfDay % 60 + t.nanos / second = 60 ↔ second ≤ t.nanos) := by
  obtain ⟨hnanos, hleap⟩ := h
  have hclock : t.secondOfDay % 60 = (t.seconds % 60).toNat := by
    rw [secondOfDay, secondsPerDay]
    omega
  rw [hclock]
  unfold second at *
  omega

theorem instant_written (t : Instant) (hvalid : t.IsValid) (hyear : t.HasFourDigitYear) :
    Parts.instant ⟨Date.ofDayNumber t.day, t.secondOfDay / 3600, t.secondOfDay / 60 % 60,
      t.secondOfDay % 60 + t.nanos / second, t.nanos % second⟩ 0 = .ok t := by
  obtain ⟨hmonth, hday, hlast⟩ := ofDayNumber_exists t.day
  have hdate : (Date.ofDayNumber t.day).valid = true := by
    obtain ⟨hlow, hhigh⟩ := hyear
    simp only [Date.valid, Bool.and_eq_true, decide_eq_true_eq]
    unfold minYear maxYear
    omega
  have hnear : (decide ((0 : Int) ≤ -secondsPerDay) || decide (secondsPerDay ≤ (0 : Int))) =
      false := by
    decide
  have hparts : (if t.secondOfDay % 60 + t.nanos / second = 60 then t.nanos % second + second
        else t.nanos % second) = t.nanos ∧
      (if t.secondOfDay % 60 + t.nanos / second = 60 then 59
        else t.secondOfDay % 60 + t.nanos / second) = t.secondOfDay % 60 := by
    have hbound := hvalid.1
    have hmod : t.secondOfDay % 60 < 60 := Nat.mod_lt _ (by decide)
    have hwritten := hvalid.writtenSecond.2
    generalize t.secondOfDay % 60 = written at *
    unfold second at *
    split_ifs <;> omega
  have hclock : (t.secondOfDay / 3600 : Nat) * 3600 + (t.secondOfDay / 60 % 60 : Nat) * 60 +
      (t.secondOfDay % 60 : Nat) = (t.secondOfDay : Int) := by
    omega
  have hseconds : t.day * secondsPerDay + t.secondOfDay - 0 = t.seconds := by
    rw [day, secondOfDay, secondsPerDay]
    omega
  simp only [Parts.instant, hdate, Bool.not_true, Bool.false_or, hnear, Bool.false_eq_true,
    if_false, hparts, hclock, dayNumber_ofDayNumber, hseconds]

theorem strictTime_chars (t : Instant) (hvalid : t.IsValid) (hyear : t.HasFourDigitYear) :
    strictTime (Date.ofDayNumber t.day) (decimalPadded 2 (t.secondOfDay / 3600) ++ ':' ::
        (decimalPadded 2 (t.secondOfDay / 60 % 60) ++ ':' ::
          (decimalPadded 2 (t.secondOfDay % 60 + t.nanos / second) ++
            (fractionText (t.nanos % second) ++ Zone.numeric.text)))) = .ok t := by
  have hzone : Zone.numeric.text = '+' :: "00:00".toList := rfl
  have hfraction := readOptionalFraction_fractionText (t.nanos % second)
    (Nat.mod_lt _ (by decide)) '+' "00:00".toList (by decide) (by decide)
  rw [← hzone] at hfraction
  have hclock := t.secondOfDay_lt
  have hsecond := hvalid.writtenSecond.1
  simp only [strictTime,
    readNumber_two (Nat.le_refl 2) _ _ (show t.secondOfDay / 3600 < 100 by omega),
    readNumber_two (Nat.le_refl 2) _ _ (show t.secondOfDay / 60 % 60 < 100 by omega),
    readNumber_two (Nat.le_refl 2) _ _ (Nat.lt_of_le_of_lt hsecond (by decide)),
    ranged_ok 0 23 (t.secondOfDay / 3600) (by omega),
    ranged_ok 0 59 (t.secondOfDay / 60 % 60) (by omega),
    ranged_ok 0 60 (t.secondOfDay % 60 + t.nanos / second) ⟨Nat.zero_le _, hsecond⟩,
    readChar_cons, hfraction, readOffset_zero, bind, Except.bind]
  have hnear : (decide ((0 : Int) < -greatestOffset) || decide (greatestOffset < 0)) = false := by
    decide
  simpa only [hnear, Bool.false_eq_true, if_false, List.isEmpty_nil, if_true]
    using instant_written t hvalid hyear

theorem HasFourDigitYear.yearText {t : Instant} (h : t.HasFourDigitYear) :
    yearText (Date.ofDayNumber t.day).year =
      decimalPadded 4 (Date.ofDayNumber t.day).year.toNat := by
  rw [Instant.yearText, if_pos (by simp [h.1, h.2])]

theorem strict_chars (t : Instant) (hvalid : t.IsValid) (hyear : t.HasFourDigitYear) :
    strict (chars .numeric t) = .ok t := by
  obtain ⟨hmonth, hday, hlast⟩ := ofDayNumber_exists t.day
  have hlength := daysInMonth_le (Date.ofDayNumber t.day).year (Date.ofDayNumber t.day).month
  have hbound : numberBound = 9223372036854775808 := rfl
  have htime := strictTime_chars t hvalid hyear
  have hyearText := hyear.yearText
  obtain ⟨hlow, hhigh⟩ := hyear
  have hyearBack : (((Date.ofDayNumber t.day).year.toNat : Nat) : Int) =
      (Date.ofDayNumber t.day).year := by
    omega
  simp only [chars, hyearText, List.append_assoc, List.cons_append, strict,
    readNumber_exact (Nat.le_refl 4) (Date.ofDayNumber t.day).year.toNat _ (by omega) (by omega),
    readChar_cons,
    readNumber_two (Nat.le_refl 2) (Date.ofDayNumber t.day).month _ (by omega),
    readNumber_two (Nat.le_refl 2) (Date.ofDayNumber t.day).day _ (by omega),
    ranged_ok 1 12 (Date.ofDayNumber t.day).month hmonth,
    ranged_ok 1 31 (Date.ofDayNumber t.day).day ⟨hday, by omega⟩, bind, Except.bind,
    hyearBack, htime]
  rfl

private theorem readNumber_of_no_digit (least most : Nat) (c : Char) (rest : List Char)
    (hleast : 1 ≤ least) (hc : digitValue? c = none) :
    ∃ e, readNumber least most (c :: rest) = .error e := by
  rw [readNumber]
  split
  · exact ⟨_, rfl⟩
  · rw [if_neg]
    · exact ⟨_, rfl⟩
    · obtain ⟨k, rfl⟩ : ∃ k, least = k + 1 := ⟨least - 1, by omega⟩
      simp [hc]

/-- The strict reader knows no sign, so a year of more digits, or a negative one, is refused. -/
theorem strict_chars_error (t : Instant) (hyear : ¬ t.HasFourDigitYear) :
    ∃ e, strict (chars .numeric t) = .error e := by
  have htext : ∃ c rest, digitValue? c = none ∧
      yearText (Date.ofDayNumber t.day).year = c :: rest := by
    rw [yearText, if_neg (by simpa [HasFourDigitYear] using hyear)]
    by_cases h : (Date.ofDayNumber t.day).year < 0
    · exact ⟨'-', _, by decide, by rw [if_pos h]; rfl⟩
    · exact ⟨'+', _, by decide, by rw [if_neg h]; rfl⟩
  obtain ⟨c, rest, hc, htext⟩ := htext
  simp only [chars, htext, List.append_assoc, List.cons_append, strict]
  obtain ⟨e, he⟩ := readNumber_of_no_digit 4 4 c _ (by decide) hc
  exact ⟨e, by rw [he]; rfl⟩

theorem strict?_text (t u : Instant) (hvalid : t.IsValid) :
    strict? (t.text .numeric) = some u ↔ t.HasFourDigitYear ∧ u = t := by
  rw [strict?, text, String.toList_ofList]
  by_cases hyear : t.HasFourDigitYear
  · rw [strict_chars t hvalid hyear]
    simp [hyear, Except.toOption, eq_comm]
  · obtain ⟨e, he⟩ := strict_chars_error t hyear
    simp [he, hyear, Except.toOption]

private theorem ofNanos_isValid (total : Int) : (ofNanos total).IsValid := by
  have hpos : 0 ≤ total % (second : Int) := Int.emod_nonneg _ (by decide)
  have hlt : total % (second : Int) < second := Int.emod_lt_of_pos _ (by decide)
  constructor
  · show (total % (second : Int)).toNat < 2 * second
    omega
  · intro h
    have : second ≤ (total % (second : Int)).toNat := h
    omega

theorem IsValid.add {t : Instant} (h : t.IsValid) (span : Span) : (t.add span).IsValid := by
  rw [Instant.add]
  split
  · exact ofNanos_isValid _
  · split
    · exact ofNanos_isValid _
    · split
      · exact ofNanos_isValid _
      next hleap hforward hback =>
        -- the instant stays within its leap second, or falls back into the second before it
        have hlow : -(second : Int) < span.tmod second :=
          Int.lt_tmod_of_pos span (by decide)
        refine ⟨?_, fun _ => h.2 (by omega)⟩
        simp only [Bool.or_eq_true, Bool.and_eq_true, decide_eq_true_eq, not_or, not_and]
          at hforward
        have hnanos := h.1
        by_cases hpart : 0 < span.tmod second
        · have := hforward.2 hpart
          show (↑t.nanos + span.tmod second).toNat < 2 * second
          omega
        · show (↑t.nanos + span.tmod second).toNat < 2 * second
          omega

end RegistryConsole.Instant
