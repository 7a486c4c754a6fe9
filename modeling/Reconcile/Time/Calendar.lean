/-!
# The calendar

Days of the Gregorian calendar, extended back to the first of January of year 1
and numbered from there, which is day 0 and a Monday; and the weeks of ISO 8601,
which begin on Monday, the first of a year being the one that holds its first
Thursday.
-/

namespace Reconcile.Time

/-- Whether a year has a twenty-ninth of February. -/
def isLeap (year : Nat) : Bool := year % 4 = 0 && (year % 100 ≠ 0 || year % 400 = 0)

/-- The number of days in a month of a leap or common year; months count from
one. -/
def monthLength (leap : Bool) : (month : Nat) → Nat
  | 2 => if leap then 29 else 28
  | 4 | 6 | 9 | 11 => 30
  | _ => 31

/-- The number of days in a year. -/
def yearLength (year : Nat) : Nat := if isLeap year then 366 else 365

/-- The number of days before the first of January of a year from year 1 on. -/
def daysBeforeYear (year : Nat) : Nat :=
  let y := year - 1
  365 * y + y / 4 - y / 100 + y / 400

/-- The number of days of a year before the first of a month. -/
def daysBeforeMonth (leap : Bool) (month : Nat) : Nat :=
  (List.range' 1 (month - 1)).foldl (fun days m => days + monthLength leap m) 0

/-- A day by its year, month and day of the month. -/
structure Date where
  year : Nat
  month : Nat
  day : Nat
deriving DecidableEq, Inhabited

/-- The greatest year. -/
def maxYear : Nat := 9999

/-- The number of days from year 1 to the greatest year. -/
def dayLimit : Nat := 3652059

/-- Whether the calendar has the day. -/
structure Date.Valid (d : Date) : Prop where
  one_le_year : 1 ≤ d.year
  year_le : d.year ≤ maxYear
  one_le_month : 1 ≤ d.month
  month_le : d.month ≤ 12
  one_le_day : 1 ≤ d.day
  day_le : d.day ≤ monthLength (isLeap d.year) d.month

/-- The number of a day. -/
def Date.dayNumber (d : Date) : Nat :=
  daysBeforeYear d.year + daysBeforeMonth (isLeap d.year) d.month + (d.day - 1)

/-- Where the `n`-th day falls in a row of at most `fuel` spans, of `length i`
days each and numbered from `first`: the number of its span, and the days of
that span before it. -/
def locate (length : Nat → Nat) : (fuel first n : Nat) → Nat × Nat
  | 0, first, n => (first, n)
  | fuel + 1, first, n =>
    if n < length first then (first, n) else locate length fuel (first + 1) (n - length first)

/-- The number of days in four hundred years. -/
def cycleLength : Nat := 146097

/-- The day of a number. The years of a cycle of four hundred are gone through,
then the months. -/
def Date.ofDayNumber (n : Nat) : Date :=
  let (inCycle, rest) := locate yearLength 399 1 (n % cycleLength)
  let year := 400 * (n / cycleLength) + inCycle
  let (month, rest) := locate (monthLength (isLeap year)) 11 1 rest
  ⟨year, month, rest + 1⟩

/-- The number of the Monday on which the first week of a year begins. -/
def firstMonday (year : Nat) : Nat :=
  let newYear := daysBeforeYear year
  let weekday := newYear % 7
  if weekday < 4 then newYear - weekday else newYear + (7 - weekday)

/-- Whether a year has fifty-three weeks: it begins on a Thursday, or on a
Wednesday and is a leap year. -/
def hasWeek53 (year : Nat) : Bool :=
  let weekday := daysBeforeYear year % 7
  weekday = 3 || weekday = 2 && isLeap year

/-- The number of a day given by year, week and day of the week, the last two
counted from one. -/
def dayOfWeekDate? (year week day : Nat) : Option Nat :=
  if 1 ≤ year ∧ year ≤ maxYear ∧ 1 ≤ week ∧ (week ≤ 52 ∨ week = 53 ∧ hasWeek53 year) ∧
      1 ≤ day ∧ day ≤ 7 then
    some (firstMonday year + 7 * (week - 1) + (day - 1))
  else none

/-- The day given by year, week and day of the week. The weeks of year 0 are before
the first month of the calendar. -/
def Date.ofWeekDate? (year week day : Nat) : Option Date :=
  if year = 0 then
    if 1 ≤ week ∧ week ≤ 52 ∧ 1 ≤ day ∧ day ≤ 7 then some ⟨1, 0, 0⟩ else none
  else Date.ofDayNumber <$> dayOfWeekDate? year week day

theorem daysBeforeMonth_add_monthLength_le (leap : Bool) {month : Nat} (h₁ : 1 ≤ month)
    (h₂ : month ≤ 12) :
    daysBeforeMonth leap month + monthLength leap month ≤ if leap then 366 else 365 := by
  have key : ∀ leap : Bool, ∀ m : Fin 12, daysBeforeMonth leap (m + 1) + monthLength leap (m + 1) ≤
      if leap then 366 else 365 := by decide
  obtain ⟨m, rfl⟩ : ∃ m, month = m + 1 := ⟨month - 1, by omega⟩
  exact key leap ⟨m, by omega⟩

theorem succ_div_eq {n k : Nat} (hk : 0 < k) :
    (n + 1) / k = n / k + if (n + 1) % k = 0 then 1 else 0 := by
  have h₁ := Nat.div_add_mod n k
  have h₂ := Nat.mod_lt n hk
  have hn : n + 1 = n % k + 1 + k * (n / k) := by omega
  rw [hn, Nat.add_mul_div_left _ _ hk, Nat.add_mul_mod_self_left]
  rcases Nat.lt_or_ge (n % k + 1) k with h | h
  · rw [Nat.div_eq_of_lt h, Nat.mod_eq_of_lt h, if_neg (by omega)]
    omega
  · rw [show n % k + 1 = k by omega, Nat.div_self hk, Nat.mod_self, if_pos rfl]
    omega

theorem daysBeforeYear_add_yearLength {year : Nat} (h : 1 ≤ year) :
    daysBeforeYear year + yearLength year = daysBeforeYear (year + 1) := by
  obtain ⟨y, rfl⟩ : ∃ y, year = y + 1 := ⟨year - 1, by omega⟩
  simp only [daysBeforeYear, yearLength, isLeap, Nat.add_sub_cancel,
    succ_div_eq (n := y) (show 0 < 4 by decide), succ_div_eq (n := y) (show 0 < 100 by decide),
    succ_div_eq (n := y) (show 0 < 400 by decide)]
  have hle : y / 100 ≤ y / 4 := Nat.div_le_div_left (by decide) (by decide)
  by_cases h4 : (y + 1) % 4 = 0
  · by_cases h100 : (y + 1) % 100 = 0
    · by_cases h400 : (y + 1) % 400 = 0 <;> simp [h4, h100, h400] <;> omega
    · have h400 : ¬(y + 1) % 400 = 0 := by omega
      simp [h4, h100, h400]
      omega
  · have h100 : ¬(y + 1) % 100 = 0 := by omega
    have h400 : ¬(y + 1) % 400 = 0 := by omega
    simp [h4, h100, h400]
    omega

theorem daysBeforeYear_mono {y z : Nat} (h : y ≤ z) : daysBeforeYear y ≤ daysBeforeYear z := by
  induction h with
  | refl => exact Nat.le_refl _
  | @step z _ ih =>
    rcases Nat.eq_zero_or_pos z with rfl | hz
    · exact ih
    · have := daysBeforeYear_add_yearLength hz
      exact Nat.le_trans ih (this ▸ Nat.le_add_right _ _)

/-- Every day of the calendar has a number below the limit. -/
theorem Date.Valid.dayNumber_lt {d : Date} (h : d.Valid) : d.dayNumber < dayLimit := by
  have hm := daysBeforeMonth_add_monthLength_le (isLeap d.year) h.one_le_month h.month_le
  have hy := daysBeforeYear_add_yearLength h.one_le_year
  have hmax : daysBeforeYear (d.year + 1) ≤ daysBeforeYear 10000 :=
    daysBeforeYear_mono (by have := h.year_le; simp only [maxYear] at this; omega)
  have hlast : daysBeforeYear 10000 = dayLimit := by decide
  have hday := h.day_le
  have hone := h.one_le_day
  simp only [Date.dayNumber, yearLength] at *
  omega

end Reconcile.Time
