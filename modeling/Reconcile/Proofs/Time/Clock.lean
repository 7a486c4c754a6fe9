import Mathlib
import Reconcile.Proofs.Binary64
import Reconcile.Time.Clock

/-!
# Which clock is ahead

The order of two clocks is decided on rounded seconds, and a greater difference never
comes to fewer of them (`wholeSeconds_mono`). Main statements: exchanging the two sides
exchanges the answer (`clockOrder_swap`), and for the tolerances in use the rounding
changes no answer, so that a side is after the other exactly when their instants are
more than the tolerance apart in whole seconds (`order_eq_localAfter_iff`).
-/

namespace Reconcile.Time

/-- The order with the two sides exchanged. -/
def ClockOrder.swap : ClockOrder → ClockOrder
  | .localAfter => .remoteAfter
  | .remoteAfter => .localAfter
  | r => r

/-! ## Whole seconds -/

theorem wholeSeconds_natCast (n : Nat) :
    wholeSeconds n = (Binary64.ofQuotient false n secondLength).truncate := by
  rw [wholeSeconds, Binary64.ofRatio, decide_eq_false (by omega), Int.natAbs_natCast]

theorem wholeSeconds_neg (d : Int) : wholeSeconds (-d) = -wholeSeconds d := by
  simp only [wholeSeconds, Binary64.ofRatio, Int.natAbs_neg]
  rcases Int.lt_trichotomy d 0 with hlt | rfl | hgt
  · rw [decide_eq_false (by omega : ¬-d < 0), decide_eq_true hlt,
      Binary64.truncate_ofQuotient_true, Int.neg_neg]
  · simp only [Int.natAbs_zero, Binary64.truncate_ofQuotient_zero, Int.neg_zero]
  · rw [decide_eq_true (by omega : -d < 0), decide_eq_false (by omega : ¬d < 0),
      Binary64.truncate_ofQuotient_true]

theorem wholeSeconds_zero : wholeSeconds 0 = 0 := Binary64.truncate_ofQuotient_zero false _

theorem wholeSeconds_nonneg {d : Int} (h : 0 ≤ d) : 0 ≤ wholeSeconds d := by
  obtain ⟨n, rfl⟩ := Int.eq_ofNat_of_zero_le h
  rw [wholeSeconds_natCast]
  exact Binary64.truncate_ofQuotient_nonneg n secondLength

/-- **The threshold**: a positive number of whole seconds is reached exactly when
the microseconds reach it. -/
theorem le_wholeSeconds_iff {t : Nat} {d : Int} (h0 : 0 < t) (ht : t ≤ 2 ^ 33)
    (hd : d < 2 ^ 52 * secondLength) :
    (t : Int) ≤ wholeSeconds d ↔ (t : Int) * secondLength ≤ d := by
  rcases Int.lt_or_le d 0 with hneg | hpos
  · -- rounding is symmetric about zero, so a negative difference stays below `t`
    have hle := wholeSeconds_nonneg (d := -d) (by omega)
    rw [wholeSeconds_neg] at hle
    have hmul : 0 < (t : Int) * secondLength := Int.mul_pos (by omega) (by decide)
    constructor <;> intro h <;> omega
  · obtain ⟨n, rfl⟩ := Int.eq_ofNat_of_zero_le hpos
    have hdivisor : 0 < secondLength ∧ secondLength < 2 ^ 21 := by norm_num [secondLength]
    have hn : n < 2 ^ 52 * secondLength := Int.ofNat_lt.1 (by push_cast; exact hd)
    rw [wholeSeconds_natCast, Binary64.le_truncate_iff hdivisor.1 hdivisor.2 hn ht,
      ← Int.natCast_mul, Int.ofNat_le]

theorem wholeSeconds_natCast_mono {n n' : Nat} (h : n ≤ n')
    (hn' : (n' : Int) < 2 ^ 52 * secondLength) : wholeSeconds n ≤ wholeSeconds n' := by
  rw [wholeSeconds_natCast, wholeSeconds_natCast]
  exact Binary64.truncate_ofQuotient_mono (by decide) (by decide) h (by exact_mod_cast hn')

/-- **More microseconds are no fewer whole seconds**, of whatever sign and magnitude. -/
theorem wholeSeconds_mono {d d' : Int} (h : d ≤ d') (hd : -d < 2 ^ 52 * secondLength)
    (hd' : d' < 2 ^ 52 * secondLength) : wholeSeconds d ≤ wholeSeconds d' := by
  rcases Int.le_total 0 d with hpos | hneg
  · obtain ⟨n, rfl⟩ := Int.eq_ofNat_of_zero_le hpos
    obtain ⟨n', rfl⟩ := Int.eq_ofNat_of_zero_le (Int.le_trans hpos h)
    exact wholeSeconds_natCast_mono (by omega) hd'
  · obtain ⟨n, hn⟩ := Int.eq_ofNat_of_zero_le (show 0 ≤ -d by omega)
    rcases Int.le_total 0 d' with hpos' | hneg'
    · -- zero lies between the two
      calc wholeSeconds d = -wholeSeconds (-d) := by rw [wholeSeconds_neg, Int.neg_neg]
        _ ≤ 0 := Int.neg_nonpos_of_nonneg (wholeSeconds_nonneg (by omega))
        _ ≤ wholeSeconds d' := wholeSeconds_nonneg hpos'
    · -- below zero the order is that of the negations
      obtain ⟨n', hn'⟩ := Int.eq_ofNat_of_zero_le (show 0 ≤ -d' by omega)
      have hle := wholeSeconds_natCast_mono (show n' ≤ n by omega) (by omega)
      rw [← hn, ← hn', wholeSeconds_neg, wholeSeconds_neg] at hle
      exact Int.le_of_neg_le_neg hle

/-! ## The order of two clocks -/

namespace Timestamp

/-- The whole seconds by which the first clock is ahead of the second. -/
def lead (here there : Timestamp) : Int := wholeSeconds (here.instant - there.instant)

theorem lead_swap (here there : Timestamp) : there.lead here = -here.lead there := by
  rw [lead, lead, ← wholeSeconds_neg, Int.neg_sub]

theorem lead_self (t : Timestamp) : t.lead t = 0 := by
  rw [lead, Int.sub_self, wholeSeconds_zero]

theorem order_eq_lead (tolerance : Int) (here there : Timestamp) :
    here.order tolerance there =
      if (here.lead there).natAbs ≤ tolerance then .withinTolerance
      else if 0 < here.lead there then .localAfter
      else .remoteAfter := rfl

theorem order_swap {tolerance : Int} (h : 0 ≤ tolerance) (here there : Timestamp) :
    there.order tolerance here = (here.order tolerance there).swap := by
  rw [order_eq_lead, order_eq_lead, lead_swap here there, Int.natAbs_neg]
  generalize here.lead there = seconds
  by_cases hnear : (seconds.natAbs : Int) ≤ tolerance
  · simp only [if_pos hnear, ClockOrder.swap]
  · rcases Int.lt_or_le 0 seconds with hpos | hneg
    · simp only [if_neg hnear, if_pos hpos, if_neg (show ¬0 < -seconds by omega), ClockOrder.swap]
    · simp only [if_neg hnear, if_neg (show ¬0 < seconds by omega),
        if_pos (show 0 < -seconds by omega), ClockOrder.swap]

theorem order_eq_localAfter_iff_lead {tolerance : Int} (h : 0 ≤ tolerance)
    {here there : Timestamp} :
    here.order tolerance there = .localAfter ↔ tolerance < here.lead there := by
  rw [order_eq_lead]
  split_ifs <;> simp <;> omega

end Timestamp

/-- Exchanging the two sides exchanges what the clocks say. -/
theorem clockOrder_swap {tolerance : Int} (h : 0 ≤ tolerance) (here there : Option Timestamp) :
    clockOrder tolerance there here = (clockOrder tolerance here there).swap := by
  cases here with
  | none => cases there <;> rfl
  | some t =>
    cases there with
    | none => rfl
    | some u => exact t.order_swap h u

/-- A clock is never ahead of itself. -/
theorem clockOrder_self {tolerance : Int} (h : 0 ≤ tolerance) (time : Option Timestamp) :
    clockOrder tolerance time time = .withinTolerance ∨
      clockOrder tolerance time time = .indeterminate := by
  cases time with
  | none => exact .inr rfl
  | some t =>
    left
    simp [clockOrder, Timestamp.order_eq_lead, Timestamp.lead_self, h]

/-- An offset moves a time stamp by less than a day. -/
theorem Timestamp.instant_bounds (t : Timestamp) :
    -(dayLength : Int) < t.instant ∧ t.instant < wallLimit + dayLength := by
  have hwall := t.wall_lt
  cases h : t.offset with
  | none =>
    simp only [instant, h, Option.map_none, Option.getD_none]
    constructor
    · simp only [dayLength, secondLength]; omega
    · simp only [dayLength, secondLength]; omega
  | some offset =>
    have hneg := offset.neg_lt
    have hlt := offset.lt
    simp only [instant, h, Option.map_some, Option.getD_some]
    constructor <;> omega

theorem Timestamp.instant_sub_lt (t u : Timestamp) :
    t.instant - u.instant < 2 ^ 52 * secondLength := by
  have ht := t.instant_bounds.2
  have hu := u.instant_bounds.1
  have hcalendar : (wallLimit : Int) + dayLength + dayLength < 2 ^ 52 * secondLength := by
    norm_num [wallLimit, dayLimit, dayLength, secondLength]
  omega

/-- **The clock test is exact**: a side is after the other when it is ahead by more
whole seconds than the tolerance. -/
theorem Timestamp.order_eq_localAfter_iff {tolerance : Nat} (h : tolerance < 2 ^ 33)
    {here there : Timestamp} :
    here.order tolerance there = .localAfter ↔
      ((tolerance : Int) + 1) * secondLength ≤ here.instant - there.instant := by
  have hiff := le_wholeSeconds_iff (Nat.succ_pos tolerance) h (here.instant_sub_lt there)
  rw [Nat.cast_succ] at hiff
  rw [order_eq_localAfter_iff_lead (Int.natCast_nonneg tolerance), ← hiff]
  exact Int.add_one_le_iff.symm

theorem clockOrder_eq_localAfter_iff {tolerance : Nat} (h : tolerance < 2 ^ 33)
    {here there : Option Timestamp} :
    clockOrder tolerance here there = .localAfter ↔
      ∃ t u, here = some t ∧ there = some u ∧
        ((tolerance : Int) + 1) * secondLength ≤ t.instant - u.instant := by
  constructor
  · intro hafter
    cases here with
    | none => cases there <;> cases hafter
    | some t =>
      cases there with
      | none => cases hafter
      | some u => exact ⟨t, u, rfl, rfl, (Timestamp.order_eq_localAfter_iff h).1 hafter⟩
  · rintro ⟨t, u, rfl, rfl, hle⟩
    exact (Timestamp.order_eq_localAfter_iff h).2 hle

end Reconcile.Time
