import Reconcile.Time.Calendar

/-!
# Days and their numbers

A day is found from its number by going through the years of a cycle, then through
the months (`locate_spec`). Main statement: what is found is a day of the calendar
and has that number (`Date.valid_ofDayNumber`, `Date.dayNumber_ofDayNumber`).
-/

namespace Reconcile.Time

/-- **Going through spans** ends in the span that holds the day. `before i` is the
number of days before span `i`. -/
theorem locate_spec (length before : Nat → Nat) {first : Nat}
    (hbefore : ∀ i, first ≤ i → before (i + 1) = before i + length i) (fuel n : Nat) :
    first ≤ (locate length fuel first n).1 ∧
      (locate length fuel first n).1 ≤ first + fuel ∧
      before (locate length fuel first n).1 + (locate length fuel first n).2 =
        before first + n ∧
      (before first + n < before (first + fuel + 1) →
        (locate length fuel first n).2 < length (locate length fuel first n).1) := by
  induction fuel generalizing first n with
  | zero =>
    refine ⟨Nat.le_refl _, Nat.le_refl _, rfl, ?_⟩
    intro hlt
    rw [Nat.add_zero, hbefore first (Nat.le_refl _)] at hlt
    exact Nat.lt_of_add_lt_add_left hlt
  | succ fuel ih =>
    by_cases h : n < length first
    · simp only [locate, if_pos h]
      exact ⟨Nat.le_refl _, by omega, trivial, fun _ => h⟩
    · have hfirst := hbefore first (Nat.le_refl _)
      obtain ⟨hle, hge, hsum, hlt⟩ :=
        ih (fun i (hi : first + 1 ≤ i) => hbefore i (by omega)) (n - length first)
      simp only [locate, if_neg h]
      refine ⟨by omega, by omega, by omega, ?_⟩
      intro hn
      refine hlt ?_
      rw [show first + 1 + fuel + 1 = first + (fuel + 1) + 1 by omega]
      omega

/-! ## Years and months -/

theorem daysBeforeMonth_succ (leap : Bool) {month : Nat} (h : 1 ≤ month) :
    daysBeforeMonth leap (month + 1) = daysBeforeMonth leap month + monthLength leap month := by
  obtain ⟨m, rfl⟩ : ∃ m, month = m + 1 := ⟨month - 1, by omega⟩
  simp only [daysBeforeMonth, Nat.add_sub_cancel]
  rw [List.range'_1_concat, List.foldl_append, List.foldl_cons, List.foldl_nil, Nat.add_comm 1 m]

theorem daysBeforeMonth_thirteen (year : Nat) :
    daysBeforeMonth (isLeap year) 13 = yearLength year := by
  rw [yearLength]
  cases isLeap year <;> decide

/-- The calendar repeats itself after four hundred years. -/
theorem isLeap_add_cycle (cycles year : Nat) : isLeap (400 * cycles + year) = isLeap year := by
  simp only [isLeap, show (400 * cycles + year) % 4 = year % 4 by omega,
    show (400 * cycles + year) % 100 = year % 100 by omega,
    show (400 * cycles + year) % 400 = year % 400 by omega]

theorem daysBeforeYear_add_cycle (cycles : Nat) {year : Nat} (h : 1 ≤ year) :
    daysBeforeYear (400 * cycles + year) = cycleLength * cycles + daysBeforeYear year := by
  simp only [daysBeforeYear, cycleLength,
    show 400 * cycles + year - 1 = 400 * cycles + (year - 1) by omega]
  omega

/-- The year of a cycle in which a day falls, and the days of that year before it. -/
theorem locate_year (n : Nat) :
    1 ≤ (locate yearLength 399 1 (n % cycleLength)).1 ∧
      daysBeforeYear (locate yearLength 399 1 (n % cycleLength)).1 +
        (locate yearLength 399 1 (n % cycleLength)).2 = n % cycleLength ∧
      (locate yearLength 399 1 (n % cycleLength)).2 <
        yearLength (locate yearLength 399 1 (n % cycleLength)).1 := by
  have hzero : daysBeforeYear 1 = 0 := by decide
  have htotal : daysBeforeYear (1 + 399 + 1) = cycleLength := by decide
  obtain ⟨hle, -, hsum, hlt⟩ := locate_spec yearLength daysBeforeYear
    (fun i (hi : 1 ≤ i) => (daysBeforeYear_add_yearLength hi).symm) 399 (n % cycleLength)
  rw [hzero, Nat.zero_add] at hsum
  refine ⟨hle, hsum, hlt ?_⟩
  rw [hzero, htotal, Nat.zero_add]
  exact Nat.mod_lt _ (by decide)

/-- The month of a year in which a day of that year falls, and the days of that month
before it. -/
theorem locate_month {year days : Nat} (h : days < yearLength year) :
    1 ≤ (locate (monthLength (isLeap year)) 11 1 days).1 ∧
      (locate (monthLength (isLeap year)) 11 1 days).1 ≤ 12 ∧
      daysBeforeMonth (isLeap year) (locate (monthLength (isLeap year)) 11 1 days).1 +
        (locate (monthLength (isLeap year)) 11 1 days).2 = days ∧
      (locate (monthLength (isLeap year)) 11 1 days).2 <
        monthLength (isLeap year) (locate (monthLength (isLeap year)) 11 1 days).1 := by
  have hzero : daysBeforeMonth (isLeap year) 1 = 0 := rfl
  obtain ⟨hle, hge, hsum, hlt⟩ := locate_spec (monthLength (isLeap year))
    (daysBeforeMonth (isLeap year)) (fun i (hi : 1 ≤ i) => daysBeforeMonth_succ _ hi) 11 days
  rw [hzero, Nat.zero_add] at hsum
  refine ⟨hle, hge, hsum, hlt ?_⟩
  rw [hzero, Nat.zero_add, daysBeforeMonth_thirteen]
  exact h

theorem monthLength_le (leap : Bool) (month : Nat) : monthLength leap month ≤ 31 := by
  unfold monthLength
  split
  · cases leap <;> decide
  all_goals decide

/-! ## The day of a number -/

/-- A number determines a year, the days before that year and a month of it. -/
theorem Date.ofDayNumber_spec (n : Nat) :
    (Date.ofDayNumber n).dayNumber = n ∧ 1 ≤ (Date.ofDayNumber n).year ∧
      daysBeforeYear (Date.ofDayNumber n).year ≤ n ∧
      1 ≤ (Date.ofDayNumber n).month ∧ (Date.ofDayNumber n).month ≤ 12 ∧
      1 ≤ (Date.ofDayNumber n).day ∧
      (Date.ofDayNumber n).day ≤
        monthLength (isLeap (Date.ofDayNumber n).year) (Date.ofDayNumber n).month := by
  obtain ⟨hyear, hdays, hrest⟩ := locate_year n
  simp only [Date.ofDayNumber, Date.dayNumber]
  generalize locate yearLength 399 1 (n % cycleLength) = found at *
  obtain ⟨inCycle, rest⟩ := found
  have hcycle := daysBeforeYear_add_cycle (n / cycleLength) hyear
  have hsplit := Nat.div_add_mod n cycleLength
  have hleap : rest < yearLength (400 * (n / cycleLength) + inCycle) := by
    rw [yearLength, isLeap_add_cycle]
    exact hrest
  obtain ⟨hone, htwelve, hsum, hlt⟩ := locate_month hleap
  simp only at hcycle hdays hyear ⊢
  refine ⟨?_, by omega, by omega, hone, htwelve, by omega, by omega⟩
  rw [hcycle]
  omega

theorem Date.dayNumber_ofDayNumber (n : Nat) : (Date.ofDayNumber n).dayNumber = n :=
  (Date.ofDayNumber_spec n).1

/-- **Every number below the limit** is that of a day of the calendar. -/
theorem Date.valid_ofDayNumber {n : Nat} (h : n < dayLimit) : (Date.ofDayNumber n).Valid := by
  obtain ⟨-, hyear, hbefore, hone, htwelve, hday, hlength⟩ := Date.ofDayNumber_spec n
  refine ⟨hyear, ?_, hone, htwelve, hday, hlength⟩
  -- a later year would begin at the limit
  rw [← Nat.not_lt]
  intro hlate
  have hlimit : daysBeforeYear (maxYear + 1) = dayLimit := by decide
  have hmono := daysBeforeYear_mono (y := maxYear + 1) hlate
  omega

end Reconcile.Time
