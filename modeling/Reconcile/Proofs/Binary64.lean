import Mathlib
import Reconcile.Binary64

/-!
# The whole part of a rounded quotient

Rounding to the 64-bit format can carry a quotient up to the next whole number,
but only from within half a unit of the last place below it. Main statements: for a
small divisor and whole numbers up to `2 ^ 33` that never happens, so the whole part of
the rounded quotient reaches `t` exactly when the quotient itself does
(`le_truncate_iff`); and where it does happen, it keeps the order of the quotients
(`truncate_ofQuotient_mono`).
-/

namespace Reconcile.Binary64

variable {n d s t : Nat}

@[simp] theorem power_natCast (base k : Nat) : power base (k : Int) = base ^ k := rfl

@[simp] theorem power_neg_natCast (base k : Nat) : power base (-(k : Int)) = 1 := by
  simp [power]

/-! ## Rounding to the nearest whole number -/

/-- An even number is reached from half a unit below it on. -/
theorem le_roundHalfEven_iff (hd : 0 < d) (ht : t % 2 = 0) :
    t ≤ roundHalfEven n d ↔ 2 * (t * d) ≤ 2 * n + d := by
  have hdiv : n / d * d + n % d = n := Nat.div_add_mod' n d
  have hmod := Nat.mod_lt n hd
  simp only [roundHalfEven]
  rcases Nat.lt_trichotomy t (n / d + 1) with hlt | heq | hgt
  · have hle : t * d ≤ n / d * d := Nat.mul_le_mul_right d (by omega)
    split_ifs <;> omega
  · -- `t` is the next whole number up, and being even it wins a tie
    have hmul : t * d = n / d * d + d := by rw [heq, Nat.succ_mul]
    split_ifs <;> omega
  · have hge : (n / d + 2) * d ≤ t * d := Nat.mul_le_mul_right d (by omega)
    rw [Nat.add_mul] at hge
    split_ifs <;> omega

/-! ## The exponent of a quotient -/

theorem binade_le {k : Nat} (hn : n ≠ 0) (h : n < 2 ^ (k + 1) * d) :
    binade n d ≤ k := by
  have hlog : n.log2 < k + 1 + (d.log2 + 1) := by
    rw [← Nat.pow_lt_pow_iff_right (show 1 < 2 by decide), Nat.pow_add]
    calc 2 ^ n.log2 ≤ n := Nat.log2_self_le hn
      _ < 2 ^ (k + 1) * d := h
      _ ≤ 2 ^ (k + 1) * 2 ^ (d.log2 + 1) := Nat.mul_le_mul_left _ Nat.lt_log2_self.le
  simp only [binade]
  split_ifs with hle
  · -- the test has found `2 ^ j ≤ n / d`, which is below `2 ^ (k + 1)`
    by_contra hgt
    obtain ⟨j, hj⟩ : ∃ j : Nat, (n.log2 : Int) - d.log2 = j := ⟨n.log2 - d.log2, by omega⟩
    rw [hj, power_natCast, power_neg_natCast, Nat.mul_one] at hle
    have hpow : 2 ^ (k + 1) ≤ 2 ^ j := Nat.pow_le_pow_right (by decide) (by omega)
    have := Nat.mul_le_mul_right d hpow
    rw [Nat.mul_comm] at hle
    omega
  · omega

theorem neg_log2_lt_binade : -(d.log2 : Int) - 1 ≤ binade n d := by
  simp only [binade]
  split_ifs <;> omega

/-- A greater quotient is of no smaller size. -/
theorem binade_mono {n' : Nat} (h : n ≤ n') : binade n d ≤ binade n' d := by
  have hlog : n.log2 ≤ n'.log2 := by
    rw [Nat.log2_eq_log_two, Nat.log2_eq_log_two]
    exact Nat.log_mono_right h
  simp only [binade]
  rcases Nat.lt_or_eq_of_le hlog with hlt | heq
  · -- the greater numerator starts at least one higher
    split_ifs <;> omega
  · -- both are put to the same test, and more passes it
    rw [← heq]
    have htest := Nat.mul_le_mul_right (power 2 (-((n.log2 : Int) - d.log2))) h
    split_ifs <;> omega

/-! ## The whole part -/

theorem two_pow_eq (h : 1 ≤ s) : 2 ^ s = 2 * 2 ^ (s - 1) := by
  obtain ⟨r, rfl⟩ : ∃ r, s = r + 1 := ⟨s - 1, by omega⟩
  rw [Nat.add_sub_cancel, Nat.pow_succ']

theorem truncate_ofQuotient_true (n d : Nat) :
    (ofQuotient true n d).truncate = -(ofQuotient false n d).truncate := by
  simp only [ofQuotient]
  split_ifs <;> simp [truncate]

theorem truncate_ofQuotient_zero (negative : Bool) (d : Nat) :
    (ofQuotient negative 0 d).truncate = 0 := by
  simp [ofQuotient, truncate]

theorem truncate_ofQuotient_nonneg (n d : Nat) : 0 ≤ (ofQuotient false n d).truncate := by
  simp only [ofQuotient]
  split_ifs
  · exact Int.natCast_nonneg _
  · exact Int.le_refl _
  · exact Int.natCast_nonneg _
  · exact Int.le_refl _
  · exact Int.natCast_nonneg _

/-- The whole part of a quotient that is neither too small for a full mantissa nor
too great for a fraction. -/
theorem truncate_ofQuotient (hn : n ≠ 0) (hbinade : binade n d = 52 - s) (h1 : 1 ≤ s)
    (h2 : s ≤ 1074) :
    (ofQuotient false n d).truncate = (roundHalfEven (n * 2 ^ s) d / 2 ^ s : Nat) := by
  have hquantum : quantum n d = -(s : Int) := by rw [quantum, hbinade]; omega
  have hlimit : mantissaLimit = 2 ^ 53 := rfl
  simp only [ofQuotient, if_neg hn, hquantum, neg_neg, power_natCast, power_neg_natCast,
    Nat.mul_one, hlimit]
  by_cases hcarry : roundHalfEven (n * 2 ^ s) d = 2 ^ 53
  · -- the mantissa is halved and the exponent goes up by one
    have hexp : -(s : Int) + 1 = -((s - 1 : Nat) : Int) := by omega
    have hle : ¬maxExponent < -((s - 1 : Nat) : Int) := by simp only [maxExponent]; omega
    simp only [hcarry, if_true, hexp, if_neg hle, truncate, neg_neg, power_natCast,
      power_neg_natCast, Nat.mul_one, Bool.false_eq_true, if_false]
    rw [two_pow_eq h1, show (2 : Nat) ^ 53 / 2 = 2 ^ 52 from rfl,
      show (2 : Nat) ^ 53 = 2 * 2 ^ 52 from rfl, Nat.mul_div_mul_left _ _ (by decide)]
  · have hle : ¬maxExponent < -(s : Int) := by simp only [maxExponent]; omega
    simp only [if_neg hcarry, if_neg hle, truncate, neg_neg, power_natCast, power_neg_natCast,
      Nat.mul_one, Bool.false_eq_true, if_false]

/-- A quotient that leaves room for a fraction lies on a grid with at least one binary place. -/
theorem exists_binade_eq (hd : d.log2 ≤ 1021) (hn : n ≠ 0) (h : n < 2 ^ 52 * d) :
    ∃ s : Nat, binade n d = 52 - s ∧ 1 ≤ s ∧ s ≤ 1074 := by
  have hupper : binade n d ≤ 51 := binade_le hn h
  have hlower := neg_log2_lt_binade (n := n) (d := d)
  exact ⟨(52 - binade n d).toNat, by omega, by omega, by omega⟩

/-- A whole number lies on every such grid, so it is reached from half a unit of the last
place below it on. -/
theorem le_truncate_iff_of_binade (hd : 0 < d) (hn : n ≠ 0) (hs : binade n d = 52 - s)
    (h1 : 1 ≤ s) (h2 : s ≤ 1074) :
    (t : Int) ≤ (ofQuotient false n d).truncate ↔
      2 * (t * d * 2 ^ s) ≤ 2 * (n * 2 ^ s) + d := by
  have heven : t * 2 ^ s % 2 = 0 := by
    rw [two_pow_eq h1, Nat.mul_left_comm, Nat.mul_mod_right]
  rw [truncate_ofQuotient hn hs h1 h2, Int.ofNat_le, Nat.le_div_iff_mul_le (Nat.two_pow_pos s),
    le_roundHalfEven_iff hd heven, Nat.mul_right_comm t]

/-- **Rounding does not reach a whole number early**: a quotient with a divisor
below `2 ^ 21` rounds to at least `t ≤ 2 ^ 33` only if it is at least `t`. -/
theorem le_truncate_iff (hd : 0 < d) (hd' : d < 2 ^ 21) (hn : n < 2 ^ 52 * d) (ht : t ≤ 2 ^ 33) :
    (t : Int) ≤ (ofQuotient false n d).truncate ↔ t * d ≤ n := by
  rcases Nat.eq_zero_or_pos n with rfl | hpos
  · rw [truncate_ofQuotient_zero, Nat.le_zero, Nat.mul_eq_zero]
    omega
  have hn0 : n ≠ 0 := by omega
  have hlog : d.log2 < 21 := (Nat.log2_lt (by omega)).2 hd'
  obtain ⟨s, hs, h1, h2⟩ := exists_binade_eq (by omega) hn0 hn
  rw [le_truncate_iff_of_binade hd hn0 hs h1 h2]
  constructor
  · intro hle
    by_contra hlt
    -- below `t` the quotient is small, so half a unit of its last place is less than `1 / d`
    have hsmall : n < 2 ^ 33 * d :=
      calc n < t * d := by omega
        _ ≤ 2 ^ 33 * d := Nat.mul_le_mul_right d ht
    have hbinade : binade n d ≤ 32 := binade_le hn0 hsmall
    have hpow : 2 ^ 20 ≤ 2 ^ s := Nat.pow_le_pow_right (by decide) (by omega)
    have hmul : (n + 1) * 2 ^ s ≤ t * d * 2 ^ s := Nat.mul_le_mul_right _ (by omega)
    rw [Nat.succ_mul] at hmul
    omega
  · intro hle
    have := Nat.mul_le_mul_right (2 ^ s) hle
    omega

/-- **A greater quotient does not round to less**: its grid is no finer, and a whole number
that the smaller one is rounded up to lies on both grids. -/
theorem truncate_ofQuotient_mono {n' : Nat} (hd : 0 < d) (hlog : d.log2 ≤ 1021) (h : n ≤ n')
    (hn' : n' < 2 ^ 52 * d) :
    (ofQuotient false n d).truncate ≤ (ofQuotient false n' d).truncate := by
  rcases Nat.eq_zero_or_pos n with rfl | hpos
  · rw [truncate_ofQuotient_zero]
    exact truncate_ofQuotient_nonneg n' d
  have hn0 : n ≠ 0 := by omega
  have hn0' : n' ≠ 0 := by omega
  obtain ⟨s, hs, h1, h2⟩ := exists_binade_eq hlog hn0 (Nat.lt_of_le_of_lt h hn')
  obtain ⟨s', hs', h1', h2'⟩ := exists_binade_eq hlog hn0' hn'
  obtain ⟨t, ht⟩ := Int.eq_ofNat_of_zero_le (truncate_ofQuotient_nonneg n d)
  rw [ht, le_truncate_iff_of_binade hd hn0' hs' h1' h2']
  have hreach := (le_truncate_iff_of_binade hd hn0 hs h1 h2).1 ht.ge
  -- the smaller quotient may need more binary places, by a factor of `2 ^ k`
  obtain ⟨k, rfl⟩ : ∃ k, s = s' + k :=
    Nat.exists_eq_add_of_le (by have := binade_mono (d := d) h; omega)
  have hk : 0 < 2 ^ k := Nat.two_pow_pos k
  refine Nat.le_of_mul_le_mul_right ?_ hk
  calc 2 * (t * d * 2 ^ s') * 2 ^ k = 2 * (t * d * 2 ^ (s' + k)) := by ring
    _ ≤ 2 * (n * 2 ^ (s' + k)) + d := hreach
    _ = 2 * (n * 2 ^ s') * 2 ^ k + d := by ring
    _ ≤ 2 * (n' * 2 ^ s') * 2 ^ k + d * 2 ^ k := by
      gcongr
      exact Nat.le_mul_of_pos_right d hk
    _ = (2 * (n' * 2 ^ s') + d) * 2 ^ k := by ring

end Reconcile.Binary64
