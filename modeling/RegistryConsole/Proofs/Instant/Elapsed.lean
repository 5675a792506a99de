import RegistryConsole.Instant.Elapsed
import RegistryConsole.Proofs.Text.Hexadecimal
import RegistryConsole.Proofs.Text.Split
/-!
# Reading relative times

A relative time is read back as a count of units (`elapsed?_relativeText`), and what it tells is off
by half a unit at most. A longer time is never told as a shorter one: within a unit the count grows
with the time, and between two units every time in the smaller one is told as no more than one of
the larger, every time in the larger as no less.

The span between two instants has the sign of their order but for leap seconds at the end of a day.
Such a second is counted a second time as the first of the next day (`Overlaps`), so an instant in
it may seem to lie ahead of one that comes after it.
-/
namespace RegistryConsole

namespace Text

theorem not_mem_decimal {c : Char} (h : c.isDigit = false) (n : Nat) : c ∉ decimal n := by
  intro hmem
  have hdigit := Nat.isDigit_of_mem_toDigits (by decide) (by decide) hmem
  rw [h] at hdigit
  cases hdigit

theorem digitValue?_digitChar {d : Nat} (h : d < 10) : digitValue? d.digitChar = some d := by
  interval_cases d <;> rfl

theorem digitsValue?_decimal (n : Nat) : digitsValue? digitValue? 10 0 (decimal n) = some n := by
  induction n using Nat.strongRecOn with
  | ind n ih =>
      by_cases hsmall : n < 10
      · rw [decimal, Nat.toDigits_of_lt_base hsmall, digitsValue?, digitValue?_digitChar hsmall]
        exact congrArg some (by omega)
      · have hlast : n % 10 < 10 := Nat.mod_lt n (by decide)
        have hdigits : decimal n = decimal (n / 10) ++ [(n % 10).digitChar] :=
          Nat.toDigits_of_base_le (by decide) (by omega)
        rw [hdigits, digitsValue?_append, ih (n / 10) (by omega), Option.bind_some, digitsValue?,
          digitValue?_digitChar hlast]
        exact congrArg some (by omega)

theorem natural?_decimal (n : Nat) : natural? (decimal n) = some n := by
  rw [← digitsValue?_decimal n]
  cases hdigits : decimal n with
  | nil => exact absurd hdigits Nat.toDigits_ne_nil
  | cons c s => rfl

end Text

namespace Instant

open Text

/-- A count of units. -/
structure Told where
  count : Nat
  unit : TimeUnit
  deriving DecidableEq, Repr

/-- The time that is told, in milliseconds. -/
def Told.millis (t : Told) : Nat :=
  t.count * t.unit.millis

namespace TimeUnit

def all : List TimeUnit :=
  [.second, .minute, .hour, .day, .month, .year]

/-- The unit that a word names, alone or as several. -/
def ofWord? (word : String) : Option TimeUnit :=
  all.find? fun unit => word = unit.name || word = unit.name ++ "s"

end TimeUnit

/-- How much time has passed by a relative time, if it tells of one that has. -/
def elapsed? (text : String) : Option Told :=
  match splitString ' ' text with
  | ["now"] => some ⟨0, .second⟩
  | ["yesterday"] => some ⟨1, .day⟩
  | ["last", word] => (TimeUnit.ofWord? word).map (⟨1, ·⟩)
  | [count, word, "ago"] =>
    (natural? count.toList).bind fun count => (TimeUnit.ofWord? word).map (⟨count, ·⟩)
  | _ => none

theorem relativeText_several (n : Nat) (unit : TimeUnit) :
    relativeText ((n + 2 : Nat) : Int) unit =
      String.ofList (decimal (n + 2)) ++ " " ++ unit.name ++ "s ago" := by
  cases unit <;> rfl

theorem elapsed?_several (n : Nat) (unit : TimeUnit) :
    elapsed? (String.ofList (decimal n) ++ " " ++ unit.name ++ "s ago") = some ⟨n, unit⟩ := by
  have htext : (String.ofList (decimal n) ++ " " ++ unit.name ++ "s ago").toList =
      decimal n ++ ' ' :: (unit.name ++ "s ago").toList := by
    simp
  have hrest : (split ' ' (unit.name ++ "s ago").toList).map String.ofList =
      [unit.name ++ "s", "ago"] := by
    cases unit <;> decide
  have hword : TimeUnit.ofWord? (unit.name ++ "s") = some unit := by
    cases unit <;> decide
  have hsplit : splitString ' ' (String.ofList (decimal n) ++ " " ++ unit.name ++ "s ago") =
      [String.ofList (decimal n), unit.name ++ "s", "ago"] := by
    rw [splitString, htext, split_append, split_of_not_mem (not_mem_decimal (by decide) n),
      List.map_append, hrest]
    rfl
  rw [elapsed?, hsplit]
  simp only [String.toList_ofList, natural?_decimal, hword]
  rfl

/-- A relative time is read back, unless it tells of no whole unit but of no second. -/
theorem elapsed?_relativeText {count : Nat} {unit : TimeUnit} (h : count = 0 → unit = .second) :
    elapsed? (relativeText count unit) = some ⟨count, unit⟩ := by
  match count with
  | 0 =>
      rw [h rfl]
      decide
  | 1 => cases unit <;> decide
  | n + 2 => rw [relativeText_several, elapsed?_several]

theorem relativeText_ahead (n : Nat) :
    relativeText (-((n + 1 : Nat) : Int)) .second =
      "in " ++ String.ofList (decimal (n + 1)) ++ " seconds" := by
  have hneg : -((n + 1 : Nat) : Int) < 0 := by omega
  rw [relativeText, if_pos hneg, Int.natAbs_neg, Int.natAbs_natCast, String.append_assoc,
    String.append_assoc]
  · rfl
  all_goals omega

namespace TimeUnit

/-- The largest unit above a second that a time exceeds, and a second if it exceeds none. -/
structure IsUnitOf (unit : TimeUnit) (millis : Int) : Prop where
  exceeded : unit = .second ∨ (unit.millis : Int) < millis
  largest : ∀ other : TimeUnit, other ≠ .second → (other.millis : Int) < millis →
    other.millis ≤ unit.millis

theorem largestBelow_isUnitOf (millis : Int) : (largestBelow millis).IsUnitOf millis where
  exceeded := by
    rw [largestBelow]
    split_ifs with hyear hmonth hday hhour hminute
    · exact .inr hyear
    · exact .inr hmonth
    · exact .inr hday
    · exact .inr hhour
    · exact .inr hminute
    · exact .inl rfl
  largest := by
    intro other hne hlt
    rw [largestBelow]
    -- a unit that is exceeded is the one that is taken, or a larger one is
    cases other with
    | second => exact absurd rfl hne
    | minute => split_ifs <;> first | contradiction | decide
    | hour => split_ifs <;> first | contradiction | decide
    | day => split_ifs <;> first | contradiction | decide
    | month => split_ifs <;> first | contradiction | decide
    | year => split_ifs; decide

theorem millis_pos (unit : TimeUnit) : 0 < unit.millis := by
  cases unit <;> decide

theorem millis_dvd {a b : TimeUnit} (h : a.millis ≤ b.millis) : a.millis ∣ b.millis := by
  revert h
  cases a <;> cases b <;> decide

theorem millis_inj {a b : TimeUnit} (h : a.millis = b.millis) : a = b := by
  revert h
  cases a <;> cases b <;> decide

end TimeUnit

theorem nearestQuotient_natCast (n d : Nat) :
    nearestQuotient n d = ((2 * n + d) / (2 * d) : Nat) := by
  rw [nearestQuotient, Int.natAbs_natCast, if_neg (by omega)]

/-- What is told of a time of so many milliseconds. -/
def told (n : Nat) : Told :=
  ⟨(2 * n + (TimeUnit.largestBelow n).millis) / (2 * (TimeUnit.largestBelow n).millis),
    TimeUnit.largestBelow n⟩

section Rounding

variable {n d : Nat}

theorem nearest_error (n : Nat) (hd : 0 < d) :
    2 * ((2 * n + d) / (2 * d) * d) ≤ 2 * n + d ∧ 2 * n ≤ 2 * ((2 * n + d) / (2 * d) * d) + d := by
  have hlow := Nat.div_mul_le_self (2 * n + d) (2 * d)
  have hhigh := Nat.lt_div_mul_add (a := 2 * n + d) (b := 2 * d) (by omega)
  have hassoc : (2 * n + d) / (2 * d) * (2 * d) = 2 * ((2 * n + d) / (2 * d) * d) := by ring
  omega

theorem nearest_le {k : Nat} (hd : 0 < d) (h : n ≤ k * d) : (2 * n + d) / (2 * d) ≤ k := by
  rw [← Nat.lt_succ_iff, Nat.div_lt_iff_lt_mul (by omega)]
  have hexpand : k.succ * (2 * d) = 2 * (k * d) + 2 * d := by
    rw [Nat.succ_eq_add_one]
    ring
  omega

theorem one_le_nearest (hd : 0 < d) (h : d < n) : 1 ≤ (2 * n + d) / (2 * d) :=
  Nat.div_pos (by omega) (by omega)

end Rounding

theorem TimeUnit.second_le (unit : TimeUnit) : TimeUnit.second.millis ≤ unit.millis := by
  cases unit <;> decide

/-- A longer time is told as no less. -/
theorem told_mono {n m : Nat} (h : n ≤ m) : (told n).millis ≤ (told m).millis := by
  have hn := TimeUnit.largestBelow_isUnitOf n
  have hm := TimeUnit.largestBelow_isUnitOf m
  simp only [told, Told.millis]
  generalize TimeUnit.largestBelow n = a at hn ⊢
  generalize TimeUnit.largestBelow m = b at hm ⊢
  by_cases hab : a = b
  · subst hab
    exact Nat.mul_le_mul_right _ (Nat.div_le_div_right (by omega))
  · have hle : a.millis ≤ b.millis := by
      by_cases hsecond : a = .second
      · exact hsecond ▸ TimeUnit.second_le b
      · exact hm.largest a hsecond (by have := hn.exceeded.resolve_left hsecond; omega)
    have hne : b ≠ .second := by
      rintro rfl
      exact hab (TimeUnit.millis_inj (Nat.le_antisymm hle (TimeUnit.second_le a)))
    have hexceeded : b.millis < m := by
      have := hm.exceeded.resolve_left hne
      omega
    have hnotExceeded : n ≤ b.millis := by
      by_contra hlt
      exact hab (TimeUnit.millis_inj (Nat.le_antisymm hle (hn.largest b hne (by omega))))
    obtain ⟨k, hk⟩ := TimeUnit.millis_dvd hle
    rw [Nat.mul_comm] at hk
    calc (2 * n + a.millis) / (2 * a.millis) * a.millis
        ≤ k * a.millis := Nat.mul_le_mul_right _ (nearest_le a.millis_pos (hk ▸ hnotExceeded))
      _ = 1 * b.millis := by rw [hk, Nat.one_mul]
      _ ≤ (2 * m + b.millis) / (2 * b.millis) * b.millis :=
          Nat.mul_le_mul_right _ (one_le_nearest b.millis_pos hexceeded)

/-- Seconds that a span counts besides those between the clocks, for a leap second. -/
def leapsCounted (a b : Instant) : Int :=
  if b.secondOfDay < a.secondOfDay ∧ second ≤ b.nanos then 1
  else if a.secondOfDay < b.secondOfDay ∧ second ≤ a.nanos then -1
  else 0

theorem since_eq (a b : Instant) :
    a.since b = (a.seconds - b.seconds + leapsCounted a b) * second + (a.nanos - b.nanos) := by
  have hclock (t : Instant) : (t.secondOfDay : Int) = t.seconds % 86400 := by
    rw [secondOfDay, secondsPerDay]
    omega
  have hdays : (a.secondOfDay : Int) - b.secondOfDay + (a.day - b.day) * secondsPerDay =
      a.seconds - b.seconds := by
    rw [hclock, hclock, day, day, secondsPerDay]
    omega
  simp only [since, leapsCounted, Bool.and_eq_true, decide_eq_true_iff]
  split_ifs
  all_goals
    congr 2
    omega

theorem leapsCounted_cases (a b : Instant) :
    leapsCounted a b = 1 ∧ b.secondOfDay < a.secondOfDay ∧ second ≤ b.nanos ∨
      leapsCounted a b = -1 ∧ a.secondOfDay < b.secondOfDay ∧ second ≤ a.nanos ∨
      leapsCounted a b = 0 ∧ ¬ (b.secondOfDay < a.secondOfDay ∧ second ≤ b.nanos) ∧
        ¬ (a.secondOfDay < b.secondOfDay ∧ second ≤ a.nanos) := by
  rw [leapsCounted]
  split_ifs <;> simp_all

theorem leapsCounted_comm (a b : Instant) : leapsCounted a b = -leapsCounted b a := by
  rw [leapsCounted, leapsCounted]
  split_ifs <;> omega

theorem since_comm (a b : Instant) : a.since b = -b.since a := by
  rw [since_eq, since_eq, leapsCounted_comm]
  ring

/-- A leap second at the end of a day is counted as the first second of the next as well: seen from
an earlier part of that second, an instant in the leap second seems to lie ahead. -/
def Overlaps (leap t : Instant) : Prop :=
  leap.secondOfDay = 86399 ∧ t.seconds = leap.seconds + 1 ∧ t.nanos % second + second < leap.nanos

instance (leap t : Instant) : Decidable (Overlaps leap t) :=
  inferInstanceAs (Decidable (_ ∧ _ ∧ _))

/-- Two instants that are not torn apart by a leap second. -/
structure Comparable (a b : Instant) : Prop where
  nanos : a.nanos < 2 * second ∧ b.nanos < 2 * second
  apart : ¬ a.Overlaps b ∧ ¬ b.Overlaps a

theorem Comparable.symm {a b : Instant} (h : Comparable a b) : Comparable b a :=
  ⟨h.nanos.symm, h.apart.symm⟩

theorem secondOfDay_next {a b : Instant} (h : b.seconds = a.seconds + 1) :
    b.secondOfDay = a.secondOfDay + 1 ∨ a.secondOfDay = 86399 ∧ b.secondOfDay = 0 := by
  rw [secondOfDay, secondOfDay, h, secondsPerDay]
  omega

theorem Comparable.since_nonneg {past now : Instant} (h : Comparable past now)
    (horder : now.before past = false) : 0 ≤ now.since past := by
  obtain ⟨⟨hpast, hnow⟩, hapart, -⟩ := h
  simp only [before, Bool.or_eq_false_iff, Bool.and_eq_false_iff, decide_eq_false_iff_not]
    at horder
  have hleaps := leapsCounted_cases now past
  rw [since_eq, show (second : Int) = 1000000000 from rfl]
  change (0 : Int) ≤ _
  simp only [Overlaps, second] at hapart hpast hnow hleaps
  obtain hsame | hnext | hlater : now.seconds = past.seconds ∨ now.seconds = past.seconds + 1 ∨
      past.seconds + 2 ≤ now.seconds := by omega
  · have hclock : now.secondOfDay = past.secondOfDay := by rw [secondOfDay, secondOfDay, hsame]
    omega
  · have hclock := secondOfDay_next hnext
    omega
  · omega

theorem Comparable.since_nonneg_of_before {past now : Instant} (h : Comparable past now)
    (horder : now.before past = true) : 0 ≤ past.since now := by
  refine h.symm.since_nonneg ?_
  simp only [before, Bool.or_eq_true, Bool.and_eq_true, decide_eq_true_eq] at horder
  simp only [before, Bool.or_eq_false_iff, Bool.and_eq_false_iff, decide_eq_false_iff_not]
  omega

/-- A count of units tells of a time in milliseconds: the unit is the one for that time, the nearest
count of it is taken, and it is none for seconds only. -/
structure Told.TellsOf (t : Told) (millis : Int) : Prop where
  unit : t.unit.IsUnitOf millis
  close : |2 * (t.millis : Int) - 2 * millis| ≤ t.unit.millis
  counted : t.unit ≠ .second → 1 ≤ t.count

theorem told_tellsOf (n : Nat) : (told n).TellsOf n where
  unit := TimeUnit.largestBelow_isUnitOf n
  close := by
    have herror := nearest_error n (TimeUnit.largestBelow n).millis_pos
    simp only [told, Told.millis]
    rw [abs_le]
    omega
  counted := by
    intro hne
    have hexceeded := (TimeUnit.largestBelow_isUnitOf n).exceeded.resolve_left hne
    exact one_le_nearest (TimeUnit.millis_pos _) (by omega)

theorem timeSince_told {past now : Instant} {n : Nat} (h : (now.since past).wholeMillis = n) :
    timeSince past now = relativeText (told n).count (told n).unit := by
  rw [timeSince, h]
  exact congrArg (relativeText · _) (nearestQuotient_natCast n _)

theorem elapsed?_told (n : Nat) :
    elapsed? (relativeText (told n).count (told n).unit) = some (told n) := by
  refine elapsed?_relativeText fun hzero => ?_
  by_contra hne
  have hcounted := (told_tellsOf n).counted hne
  omega

theorem elapsed?_this (unit : TimeUnit) : elapsed? ("this " ++ unit.name) = none := by
  cases unit <;> decide

theorem exists_wholeMillis {span : Span} (h : 0 ≤ span) : ∃ n : Nat, span.wholeMillis = n :=
  Int.eq_ofNat_of_zero_le (Int.tdiv_nonneg h (by decide))

theorem timeSince_ahead {past now : Instant} {n : Nat} (h : (past.since now).wholeMillis = n) :
    timeSince past now = relativeText (-((2 * n + 1000) / 2000 : Nat)) .second := by
  have hneg : (now.since past).wholeMillis = -(n : Int) := by
    rw [since_comm, Span.wholeMillis, Int.neg_tdiv, ← h, Span.wholeMillis]
  have hunit : TimeUnit.largestBelow (-(n : Int)) = .second := by
    refine (TimeUnit.largestBelow_isUnitOf _).exceeded.resolve_right ?_
    omega
  rw [timeSince, hneg]
  simp only [hunit]
  refine congrArg (relativeText · _) ?_
  rw [nearestQuotient, Int.natAbs_neg, Int.natAbs_natCast, TimeUnit.millis]
  split_ifs <;> omega

theorem timeSince_remaining {past now : Instant} {remaining : Int} (h : 0 ≤ remaining)
    (hspan : past.since now = remaining) :
    (2 * remaining < second → timeSince past now = "now") ∧
      (second ≤ 2 * remaining → ∃ n : Nat,
        timeSince past now = "in " ++ String.ofList (decimal n) ++ " seconds" ∧
          (2 * n - 1) * (second : Int) ≤ 2 * remaining ∧
          2 * remaining < (2 * n + 1) * (second : Int)) := by
  obtain ⟨millis, hmillis⟩ := exists_wholeMillis h
  rw [timeSince_ahead (hspan ▸ hmillis), show (second : Int) = 1000000000 from rfl]
  rw [Span.wholeMillis, Int.tdiv_eq_ediv_of_nonneg h] at hmillis
  constructor
  · intro hsoon
    have hzero : (2 * millis + 1000) / 2000 = 0 := by omega
    rw [hzero]
    rfl
  · intro hlater
    obtain ⟨n, hn⟩ : ∃ n, (2 * millis + 1000) / 2000 = n + 1 :=
      Nat.exists_eq_succ_of_ne_zero (by omega)
    refine ⟨n + 1, ?_, ?_, ?_⟩
    · rw [hn, relativeText_ahead]
    · omega
    · omega

/-- Between instants that no leap second tears apart, a relative time tells of the milliseconds that
have passed, in the largest unit that they exceed and off by half of it at most, names no unit that
is none, and tells a longer time as no less; of a time ahead it tells the nearest seconds. -/
theorem timeSince_accurate {past now past' now' : Instant} (h : Comparable past now)
    (h' : Comparable past' now') :
    (now.before past = false → 0 ≤ now.since past ∧
      (∀ unit : TimeUnit, timeSince past now ≠ "this " ++ unit.name) ∧
      ∃ t, elapsed? (timeSince past now) = some t ∧
        t.TellsOf (now.since past).wholeMillis ∧
        (now'.before past' = false →
          (now.since past).wholeMillis ≤ (now'.since past').wholeMillis →
          ∃ t', elapsed? (timeSince past' now') = some t' ∧ t.millis ≤ t'.millis)) ∧
    (now.before past = true → 0 ≤ past.since now ∧
      (2 * past.since now < second → timeSince past now = "now") ∧
      (second ≤ 2 * past.since now → ∃ n : Nat,
        timeSince past now = "in " ++ String.ofList (decimal n) ++ " seconds" ∧
          (2 * n - 1) * (second : Int) ≤ 2 * past.since now ∧
          2 * past.since now < (2 * n + 1) * (second : Int))) := by
  constructor
  · intro horder
    have hspan := h.since_nonneg horder
    obtain ⟨n, hn⟩ := exists_wholeMillis hspan
    have htold : elapsed? (timeSince past now) = some (told n) := by
      rw [timeSince_told hn, elapsed?_told]
    refine ⟨hspan, fun unit hthis => ?_, told n, htold, hn ▸ told_tellsOf n, fun horder' hle => ?_⟩
    · rw [hthis, elapsed?_this] at htold
      cases htold
    · obtain ⟨m, hm⟩ := exists_wholeMillis (h'.since_nonneg horder')
      refine ⟨told m, by rw [timeSince_told hm, elapsed?_told], told_mono ?_⟩
      rw [hn, hm] at hle
      exact Int.ofNat_le.mp hle
  · intro horder
    have hspan := h.since_nonneg_of_before horder
    exact ⟨hspan, timeSince_remaining hspan rfl⟩

/-- An hour and a half is told as two hours, a day as no less. -/
theorem timeSince_accurate_day :
    ∃ t, elapsed? (timeSince ⟨0, 0⟩ ⟨5400, 0⟩) = some t ∧
      ∃ t', elapsed? (timeSince ⟨0, 0⟩ ⟨86401, 0⟩) = some t' ∧ t.millis ≤ t'.millis := by
  have hnear : Comparable ⟨0, 0⟩ ⟨5400, 0⟩ := ⟨by decide, by decide⟩
  have hfar : Comparable ⟨0, 0⟩ ⟨86401, 0⟩ := ⟨by decide, by decide⟩
  obtain ⟨-, -, t, htold, -, hmono⟩ := (timeSince_accurate hnear hfar).1 (by decide)
  exact ⟨t, htold, hmono (by decide) (by decide)⟩

/-- An instant in the leap second that ended the year 2016 seems to lie ahead of the midnight after
it, and that midnight seems to have passed. -/
theorem timeSince_leapSecond :
    Overlaps ⟨1483228799, 1500000000⟩ ⟨1483228800, 0⟩ ∧
      before ⟨1483228799, 1500000000⟩ ⟨1483228800, 0⟩ = true ∧
      timeSince ⟨1483228799, 1500000000⟩ ⟨1483228800, 0⟩ = "in 1 seconds" ∧
      elapsed? (timeSince ⟨1483228799, 1500000000⟩ ⟨1483228800, 0⟩) = none ∧
      timeSince ⟨1483228800, 0⟩ ⟨1483228799, 1500000000⟩ = "1 second ago" := by
  decide

end Instant

end RegistryConsole
