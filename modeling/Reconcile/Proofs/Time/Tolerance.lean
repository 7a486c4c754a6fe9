import Mathlib
import Reconcile.Proofs.Time.Clock

/-!
# What clocks say under a tolerance

All that two clocks say follows from one question, asked both ways round: is one of them
after the other (`order_eq_withinTolerance_iff`)? It is if it is ahead by more whole
seconds than the tolerance, and how far it is ahead grows with the exact difference, even
where that is rounded (`lead_mono`). Main statements: for the tolerances in use the answer
is that of the exact difference (`clockOrder_exact`), and under every tolerance the
answers agree with each other as those of an order should (`clockOrder_consistent`).
-/

namespace Reconcile.Time

variable {tolerance : Int} {a b c a' b' : Timestamp}

namespace Timestamp

/-! ## How far a clock is ahead -/

/-- **The lead grows with the exact difference.** Instants in the calendar are never so far
apart that the seconds between them leave no room for a fraction. -/
theorem lead_mono (h : a.instant - b.instant ≤ a'.instant - b'.instant) :
    a.lead b ≤ a'.lead b' := by
  refine wholeSeconds_mono h ?_ (a'.instant_sub_lt b')
  rw [Int.neg_sub]
  exact b.instant_sub_lt a

theorem lead_le_of_left (h : a.instant ≤ a'.instant) : a.lead b ≤ a'.lead b :=
  lead_mono (Int.sub_le_sub_right h _)

theorem lead_le_of_right (h : b'.instant ≤ b.instant) : a.lead b ≤ a.lead b' :=
  lead_mono (Int.sub_le_sub_left h _)

/-- A clock that is not ahead has no lead. -/
theorem lead_nonpos (h : a.instant ≤ b.instant) : a.lead b ≤ 0 :=
  calc a.lead b ≤ b.lead b := lead_le_of_left h
    _ = 0 := lead_self b

/-! ## One question, both ways round -/

theorem order_eq_remoteAfter_iff (h : 0 ≤ tolerance) :
    a.order tolerance b = .remoteAfter ↔ b.order tolerance a = .localAfter := by
  rw [order_swap h a b]
  cases a.order tolerance b <;> simp [ClockOrder.swap]

theorem order_ne_indeterminate (tolerance : Int) (a b : Timestamp) :
    a.order tolerance b ≠ .indeterminate := by
  rw [order_eq_lead]
  split_ifs <;> simp

/-- Two clocks are within the tolerance when neither is after the other. -/
theorem order_eq_withinTolerance_iff (h : 0 ≤ tolerance) :
    a.order tolerance b = .withinTolerance ↔
      a.order tolerance b ≠ .localAfter ∧ b.order tolerance a ≠ .localAfter := by
  have hknown := order_ne_indeterminate tolerance a b
  rw [Ne, Ne, ← order_eq_remoteAfter_iff (a := a) h]
  cases hab : a.order tolerance b with
  | indeterminate => exact absurd hab hknown
  | _ => simp

theorem order_eq_withinTolerance_iff_lead (h : 0 ≤ tolerance) :
    a.order tolerance b = .withinTolerance ↔ a.lead b ≤ tolerance ∧ b.lead a ≤ tolerance := by
  rw [order_eq_withinTolerance_iff h, Ne, Ne, order_eq_localAfter_iff_lead h,
    order_eq_localAfter_iff_lead h, Int.not_lt, Int.not_lt]

end Timestamp

/-! ## The exact difference -/

theorem clocksAgree_iff {here there : Option Timestamp} :
    clocksAgree tolerance here there = true ↔
      clockOrder tolerance here there = .withinTolerance :=
  decide_eq_true_iff

/-- **Rounding changes no answer** for tolerances below `2 ^ 33` seconds: of two known times
one is after the other when the exact difference in microseconds is at least one second
more than the tolerance. -/
theorem clockOrder_exact (h : 0 ≤ tolerance) (h' : tolerance < 2 ^ 33) (here there : Timestamp) :
    let order := clockOrder tolerance (some here) (some there)
    let difference := here.instant - there.instant
    let threshold := (tolerance + 1) * secondLength
    (order = .localAfter ↔ threshold ≤ difference) ∧
    (order = .remoteAfter ↔ difference ≤ -threshold) ∧
    (order = .withinTolerance ↔ -threshold < difference ∧ difference < threshold) ∧
    (clocksAgree tolerance (some here) (some there) = true ↔
      -threshold < difference ∧ difference < threshold) := by
  intro order difference threshold
  obtain ⟨t, rfl⟩ := Int.eq_ofNat_of_zero_le h
  have ht : t < 2 ^ 33 := by exact_mod_cast h'
  have hlocal : here.order t there = .localAfter ↔ threshold ≤ difference :=
    Timestamp.order_eq_localAfter_iff ht
  have hremote : there.order t here = .localAfter ↔ difference ≤ -threshold := by
    rw [Timestamp.order_eq_localAfter_iff ht]
    constructor <;> intro hle <;> omega
  have hwithin : here.order t there = .withinTolerance ↔
      -threshold < difference ∧ difference < threshold := by
    rw [Timestamp.order_eq_withinTolerance_iff h, Ne, Ne, hlocal, hremote, Int.not_le,
      Int.not_le, and_comm]
  exact ⟨hlocal, (Timestamp.order_eq_remoteAfter_iff h).trans hremote, hwithin,
    clocksAgree_iff.trans hwithin⟩

/-- One microsecond decides, under the greatest of these tolerances, between a clock without
an offset and one that is an hour ahead of UTC. -/
theorem clockOrder_exact_at_last_microsecond :
    let there : Timestamp := ⟨0, by decide, none⟩
    let offset : Offset := ⟨3600000000, by decide, by decide⟩
    let here : Timestamp := ⟨8589938191999999, by decide, some offset⟩
    let later : Timestamp := ⟨8589938192000000, by decide, some offset⟩
    (0 : Int) ≤ 2 ^ 33 - 1 ∧ (2 ^ 33 - 1 : Int) < 2 ^ 33 ∧
      here.instant - there.instant = 2 ^ 33 * secondLength - 1 ∧
      clocksAgree (2 ^ 33 - 1) (some here) (some there) = true ∧
      clockOrder (2 ^ 33 - 1) (some there) (some later) = .remoteAfter := by
  intro there offset here later
  have h : (0 : Int) ≤ 2 ^ 33 - 1 := by norm_num
  have h' : (2 ^ 33 - 1 : Int) < 2 ^ 33 := by norm_num
  obtain ⟨-, -, -, hagree⟩ := clockOrder_exact h h' here there
  obtain ⟨-, hremote, -⟩ := clockOrder_exact h h' there later
  exact ⟨h, h', by decide, hagree.2 (by decide), hremote.2 (by decide)⟩

/-! ## Laws of the order -/

/-- What makes the answers about any pairs of clocks agree with each other. -/
structure IsConsistent (order : Timestamp → Timestamp → ClockOrder) : Prop where
  after_iff : ∀ a b, order a b = .localAfter ↔ order b a = .remoteAfter
  within_symm : ∀ a b, order a b = .withinTolerance ↔ order b a = .withinTolerance
  within_self : ∀ a, order a a = .withinTolerance
  after_trans : ∀ a b c, order a b = .localAfter → order b c = .localAfter →
    order a c = .localAfter
  within_between : ∀ a b c : Timestamp, c.instant ≤ b.instant → b.instant ≤ a.instant →
    order a c = .withinTolerance → order a b = .withinTolerance ∧ order b c = .withinTolerance

theorem Timestamp.order_trans (h : 0 ≤ tolerance) (hab : a.order tolerance b = .localAfter)
    (hbc : b.order tolerance c = .localAfter) : a.order tolerance c = .localAfter := by
  rw [order_eq_localAfter_iff_lead h] at hab hbc ⊢
  -- a lead over `c` puts `b` ahead of it, so `a` is ahead of `c` by even more
  have hinstant : c.instant ≤ b.instant := by
    by_contra hlt
    have := lead_nonpos (Int.not_le.1 hlt).le
    omega
  exact Int.lt_of_lt_of_le hab (lead_le_of_right hinstant)

theorem Timestamp.order_between (h : 0 ≤ tolerance) (hcb : c.instant ≤ b.instant)
    (hba : b.instant ≤ a.instant) (hac : a.order tolerance c = .withinTolerance) :
    a.order tolerance b = .withinTolerance ∧ b.order tolerance c = .withinTolerance := by
  rw [order_eq_withinTolerance_iff_lead h] at hac ⊢
  rw [order_eq_withinTolerance_iff_lead h]
  constructor
  · exact ⟨Int.le_trans (lead_le_of_right hcb) hac.1, Int.le_trans (lead_nonpos hba) h⟩
  · exact ⟨Int.le_trans (lead_le_of_left hba) hac.1, Int.le_trans (lead_nonpos hcb) h⟩

/-- **The clocks are ordered consistently** under every tolerance, however large, and a
larger tolerance only brings more of them together. -/
theorem clockOrder_consistent (h : 0 ≤ tolerance) :
    IsConsistent (fun a b => clockOrder tolerance (some a) (some b)) ∧
    ∀ larger : Int, tolerance ≤ larger → ∀ a b : Timestamp,
      clockOrder tolerance (some a) (some b) = .withinTolerance →
        clockOrder larger (some a) (some b) = .withinTolerance := by
  constructor
  · constructor
    case after_iff => exact fun a b => (Timestamp.order_eq_remoteAfter_iff h).symm
    case within_symm =>
      intro a b
      exact (Timestamp.order_eq_withinTolerance_iff h).trans
        (and_comm.trans (Timestamp.order_eq_withinTolerance_iff h).symm)
    case within_self =>
      intro a
      refine (Timestamp.order_eq_withinTolerance_iff_lead h).2 ?_
      rw [Timestamp.lead_self, and_self]
      exact h
    case after_trans => exact fun a b c => Timestamp.order_trans h
    case within_between => exact fun a b c => Timestamp.order_between h
  · intro larger hle a b hab
    obtain ⟨hlead, hlead'⟩ := (Timestamp.order_eq_withinTolerance_iff_lead h).1 hab
    exact (Timestamp.order_eq_withinTolerance_iff_lead (Int.le_trans h hle)).2
      ⟨Int.le_trans hlead hle, Int.le_trans hlead' hle⟩

/-- Three clocks, each a microsecond short of being ahead of the next by one second more than
the tolerance, which is so large that the missing microsecond is rounded away. -/
theorem clockOrder_consistent_where_rounded :
    let tolerance : Int := 2 ^ 34
    let a : Timestamp := ⟨34359738369999998, by decide, none⟩
    let b : Timestamp := ⟨17179869184999999, by decide, none⟩
    let c : Timestamp := ⟨0, by decide, none⟩
    0 ≤ tolerance ∧ a.instant - b.instant = (tolerance + 1) * secondLength - 1 ∧
      clockOrder tolerance (some a) (some b) = .localAfter ∧
      clockOrder tolerance (some b) (some c) = .localAfter ∧
      clockOrder tolerance (some a) (some c) = .localAfter := by
  intro tolerance a b c
  have h : 0 ≤ tolerance := by decide
  have hab : clockOrder tolerance (some a) (some b) = .localAfter := by decide +kernel
  have hbc : clockOrder tolerance (some b) (some c) = .localAfter := by decide +kernel
  exact ⟨h, by decide, hab, hbc, (clockOrder_consistent h).1.after_trans a b c hab hbc⟩

end Reconcile.Time
