import RegistryConsole.Instant.Basic
import Mathlib.Tactic.IntervalCases
/-!
# The civil calendar

`Date.ofDayNumber` is a right inverse of `Date.dayNumber`, and what it gives is a date that exists.
Both count years from March in eras of 400 years. A day of an era is split into centuries, spans of
four years, years and days; of the quotients only the last one may come out one too high, and that
is where a leap day is.
-/
namespace RegistryConsole.Instant

/-- A day of an era in whole centuries, spans of four years, years and days. The 366th day of a
year is the last of its span, and the last of a century only at the end of the era. -/
private structure EraDay (d c q a r : Int) : Prop where
  century : 0 ≤ c ∧ c ≤ 3
  span : 0 ≤ q ∧ q ≤ 24
  year : 0 ≤ a ∧ a ≤ 3
  rest : 0 ≤ r ∧ r ≤ 365
  leap : r = 365 → a = 3 ∧ (q = 24 → c = 3)
  sum : d = 36524 * c + 1461 * q + 365 * a + r

private theorem exists_eraDay (d : Int) (hlow : 0 ≤ d) (hhigh : d < 146097) :
    ∃ c q a r, EraDay d c q a r := by
  obtain ⟨c, hc, hd⟩ : ∃ c : Int, (0 ≤ c ∧ c ≤ 3) ∧
      0 ≤ d - 36524 * c ∧ (d - 36524 * c < 36524 ∨ c = 3 ∧ d - 36524 * c = 36524) := by
    by_cases hlast : d = 146096
    · exact ⟨3, by omega⟩
    · exact ⟨d / 36524, by omega⟩
  obtain ⟨a, ha⟩ : ∃ a : Int, (0 ≤ a ∧ a ≤ 3) ∧ 0 ≤ (d - 36524 * c) % 1461 - 365 * a ∧
      ((d - 36524 * c) % 1461 - 365 * a < 365 ∨
        a = 3 ∧ (d - 36524 * c) % 1461 - 365 * a = 365) := by
    by_cases hlast : (d - 36524 * c) % 1461 = 1460
    · exact ⟨3, by omega⟩
    · exact ⟨(d - 36524 * c) % 1461 / 365, by omega⟩
  refine ⟨c, (d - 36524 * c) / 1461, a, (d - 36524 * c) % 1461 - 365 * a, hc, ?_, ha.1, ?_, ?_, ?_⟩
  all_goals omega

/-- The year of an era by the closed formula. -/
private theorem EraDay.yearOfEra {d c q a r : Int} (h : EraDay d c q a r) :
    (d - d / 1460 + d / 36524 - d / 146096) / 365 = 100 * c + 4 * q + a := by
  obtain ⟨hc, hq, ha, hr, hleap, hsum⟩ := h
  -- the quotients of the formula, each up to the one that a leap day may add
  have hspans : d / 1460 = 25 * c + q ∨
      d / 1460 = 25 * c + q + 1 ∧ 1460 ≤ 24 * c + q + 365 * a + r := by
    omega
  have hcenturies : d / 36524 - d / 146096 = c := by
    by_cases hlast : d - 36524 * c < 36524
    · have hcentury : d / 36524 = c := by omega
      have hera : d / 146096 = 0 := by omega
      omega
    · have hd : d = 146096 := by omega
      subst hd
      omega
  have hquotient : d - d / 1460 + d / 36524 - d / 146096 =
      365 * (100 * c + 4 * q + a) + (r - (d / 1460 - (25 * c + q))) := by
    omega
  rw [hquotient]
  omega

private theorem EraDay.dayOfYear {d c q a r : Int} (h : EraDay d c q a r) :
    d - (365 * (100 * c + 4 * q + a) + (100 * c + 4 * q + a) / 4 - (100 * c + 4 * q + a) / 100) =
      r := by
  obtain ⟨hc, hq, ha, -, -, hsum⟩ := h
  have hfour : (100 * c + 4 * q + a) / 4 = 25 * c + q := by omega
  have hcentury : (100 * c + 4 * q + a) / 100 = c := by omega
  omega

/-- The date of a day of a year counted from March. -/
private def marchDate (year r : Int) : Date :=
  let month : Nat := (if (5 * r + 2) / 153 < 10 then (5 * r + 2) / 153 + 3
    else (5 * r + 2) / 153 - 9).toNat
  ⟨year + (if month ≤ 2 then 1 else 0), month, (r - (153 * ((5 * r + 2) / 153) + 2) / 5 + 1).toNat⟩

private theorem exists_marchDate (n : Int) :
    ∃ era y r : Int, (0 ≤ y ∧ y ≤ 399) ∧ (0 ≤ r ∧ r ≤ 365) ∧
      (r = 365 → isLeapYear (y + era * 400 + 1) = true) ∧
      n = era * 146097 + (y * 365 + y / 4 - y / 100 + r) - 719468 ∧
      Date.ofDayNumber n = marchDate (y + era * 400) r := by
  obtain ⟨c, q, a, r, h⟩ := exists_eraDay ((n + 719468) - (n + 719468) / 146097 * 146097)
    (by omega) (by omega)
  have hyear := h.yearOfEra
  have hday := h.dayOfYear
  refine ⟨(n + 719468) / 146097, 100 * c + 4 * q + a, r, ?_, h.rest, ?_, ?_, ?_⟩
  · have := h.century
    have := h.span
    have := h.year
    omega
  · intro hr
    obtain ⟨ha, hq⟩ := h.leap hr
    have hc := h.century
    have hq' := h.span
    simp only [isLeapYear, Bool.and_eq_true, Bool.or_eq_true, bne_iff_ne, decide_eq_true_eq]
    by_cases hlast : q = 24
    · have := hq hlast
      omega
    · omega
  · omega
  · simp only [Date.ofDayNumber, marchDate, hyear, hday]

private theorem marchMonth_cases (r : Int) (hlow : 0 ≤ r) (hhigh : r ≤ 365) :
    0 ≤ (5 * r + 2) / 153 ∧ (5 * r + 2) / 153 ≤ 11 := by
  omega

private theorem dayNumber_marchDate (era y r : Int) (hy : 0 ≤ y ∧ y ≤ 399) (hr : 0 ≤ r ∧ r ≤ 365) :
    (marchDate (y + era * 400) r).dayNumber =
      era * 146097 + (y * 365 + y / 4 - y / 100 + r) - 719468 := by
  obtain ⟨hlow, hhigh⟩ := marchMonth_cases r hr.1 hr.2
  have hday : ((r - (153 * ((5 * r + 2) / 153) + 2) / 5 + 1).toNat : Int) =
      r - (153 * ((5 * r + 2) / 153) + 2) / 5 + 1 := by
    omega
  have hera : (y + era * 400) / 400 = era := by omega
  have hyearOfEra : y + era * 400 - era * 400 = y := by omega
  generalize hm : (5 * r + 2) / 153 = m at *
  by_cases hmonth : m < 10
  · have hlate : ¬ (m + 3).toNat ≤ 2 := by omega
    have hmarch : (((m + 3).toNat + 9) % 12 : Nat) = m.toNat := by omega
    have hcast : ((m.toNat : Nat) : Int) = m := by omega
    simp only [marchDate, Date.dayNumber, hm, hmonth, if_true, hlate, if_false, add_zero, hera,
      hyearOfEra, hmarch, hcast, hday]
    omega
  · have hearly : (m - 9).toNat ≤ 2 := by omega
    have hmarch : (((m - 9).toNat + 9) % 12 : Nat) = m.toNat := by omega
    have hcast : ((m.toNat : Nat) : Int) = m := by omega
    have hyear : y + era * 400 + 1 - 1 = y + era * 400 := by omega
    simp only [marchDate, Date.dayNumber, hm, hmonth, if_false, hearly, if_true, hyear, hera,
      hyearOfEra, hmarch, hcast, hday]
    omega

theorem dayNumber_ofDayNumber (n : Int) : (Date.ofDayNumber n).dayNumber = n := by
  obtain ⟨era, y, r, hy, hr, -, hn, hdate⟩ := exists_marchDate n
  rw [hdate, dayNumber_marchDate era y r hy hr, ← hn]

theorem ofDayNumber_exists (n : Int) :
    (1 ≤ (Date.ofDayNumber n).month ∧ (Date.ofDayNumber n).month ≤ 12) ∧
      1 ≤ (Date.ofDayNumber n).day ∧
      (Date.ofDayNumber n).day ≤
        daysInMonth (Date.ofDayNumber n).year (Date.ofDayNumber n).month := by
  obtain ⟨era, y, r, -, hr, hleap, -, hdate⟩ := exists_marchDate n
  rw [hdate]
  obtain ⟨hlow, hhigh⟩ := marchMonth_cases r hr.1 hr.2
  generalize hm : (5 * r + 2) / 153 = m at hlow hhigh
  by_cases hfebruary : m = 11
  · -- only here the length of the month depends on the year
    subst hfebruary
    simp only [marchDate, hm, daysInMonth]
    by_cases hlast : r = 365
    · simp [hleap hlast, hlast]
    · simp
      split <;> omega
  · simp only [marchDate, hm]
    interval_cases m
    all_goals simp [daysInMonth]
    all_goals omega

end RegistryConsole.Instant
