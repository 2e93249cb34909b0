import Mathlib

/-!
# The nearest number of 53 bits

Exact results are rational numbers.  A number is representable if it is a multiple of a power of two
not below 2^-1074 by a whole number of at most 53 bits.  Nothing here limits it from above: a number
that is too large overflows only when it is packed.
-/

set_option autoImplicit false

namespace Sightline

namespace Binary64

def Representable (z : ℚ) : Prop := ∃ m f : ℤ, |m| ≤ 2 ^ 53 ∧ -1074 ≤ f ∧ z = m * 2 ^ f

/-- Of all multiples of 2 to the power `e` the one by `n` is nearest to `x`, the even one of two
that are equally near; and `e` is as small as 53 bits allow. -/
structure RoundsBy (x r : ℚ) (n e : ℤ) : Prop where
  least : -1074 ≤ e
  value : r = n * 2 ^ e
  below : |x| < 2 ^ (53 + e)
  above : 2 ^ (52 + e) ≤ |x| ∨ e = -1074
  near : |x - r| ≤ 2 ^ (e - 1)
  even : |x - r| = 2 ^ (e - 1) → Even n

def Rounds (x r : ℚ) : Prop := ∃ n e, RoundsBy x r n e

/-! ## Powers of two -/

theorem two_zpow_pos (e : ℤ) : (0 : ℚ) < 2 ^ e := zpow_pos two_pos e

theorem two_zpow_add_nat (k : ℕ) (e : ℤ) : (2 : ℚ) ^ (k + e) = 2 ^ k * 2 ^ e := by
  rw [zpow_add₀ two_ne_zero, zpow_natCast]

theorem two_zpow_pred (e : ℤ) : (2 : ℚ) ^ (e - 1) = 2 ^ e / 2 := zpow_sub_one₀ two_ne_zero e

theorem two_zpow_le {e f : ℤ} : (2 : ℚ) ^ e ≤ 2 ^ f ↔ e ≤ f := zpow_le_zpow_iff_right₀ one_lt_two

theorem two_zpow_lt {e f : ℤ} : (2 : ℚ) ^ e < 2 ^ f ↔ e < f := zpow_lt_zpow_iff_right₀ one_lt_two

theorem two_zpow_multiple {e f : ℤ} (finer : e ≤ f) :
    (2 : ℚ) ^ f = (2 ^ (f - e).toNat : ℤ) * 2 ^ e := by
  obtain ⟨k, rfl⟩ := Int.exists_add_of_le finer
  rw [add_comm, two_zpow_add_nat]
  simp

theorem Representable.zero : Representable 0 := ⟨0, 0, by norm_num, by norm_num, by norm_num⟩

theorem Representable.two_zpow {f : ℤ} (least : -1074 ≤ f) : Representable (2 ^ f) :=
  ⟨1, f, by norm_num, least, by norm_num⟩

theorem Representable.neg {z : ℚ} (representable : Representable z) : Representable (-z) := by
  obtain ⟨m, f, fits, least, rfl⟩ := representable
  exact ⟨-m, f, by rwa [abs_neg], least, by push_cast; ring⟩

/-! ## Rounding keeps the order -/

namespace RoundsBy

variable {x r z : ℚ} {n e : ℤ}

theorem neg (nearest : RoundsBy x r n e) : RoundsBy (-x) (-r) (-n) e := by
  have apart : |-x - -r| = |x - r| := by rw [← abs_neg (x - r)]; ring_nf
  refine ⟨nearest.least, ?_, ?_, ?_, ?_, ?_⟩
  · rw [nearest.value]
    push_cast
    ring
  · rw [abs_neg]
    exact nearest.below
  · rw [abs_neg]
    exact nearest.above
  · rw [apart]
    exact nearest.near
  · rw [apart]
    exact fun tie => (nearest.even tie).neg

/-- A representable number below `x` lies below a multiple below `x`, since it is such a multiple or
small. -/
theorem exists_multiple (nearest : RoundsBy x r n e) (representable : Representable z) (le : z ≤ x) :
    ∃ m : ℤ, z ≤ m * 2 ^ e ∧ (m : ℚ) * 2 ^ e ≤ x := by
  obtain ⟨m, f, fits, least, rfl⟩ := representable
  rcases le_or_gt e f with finer | coarser
  · refine ⟨m * 2 ^ (f - e).toNat, ?_, ?_⟩
    · rw [two_zpow_multiple finer]
      push_cast
      linarith
    · rw [two_zpow_multiple finer] at le
      push_cast at le ⊢
      linarith
  · have normal : (2 : ℚ) ^ 52 * 2 ^ e ≤ |x| := by
      rcases nearest.above with normal | bottom
      · rwa [← two_zpow_add_nat 52 e]
      · omega
    have small : |(m : ℚ) * 2 ^ f| ≤ 2 ^ 52 * 2 ^ e := by
      have half : (2 : ℚ) ^ f ≤ 2 ^ e / 2 := by
        rw [← two_zpow_pred]
        exact two_zpow_le.2 (by omega)
      have fitsQ : |(m : ℚ)| ≤ 2 ^ 53 := by exact_mod_cast fits
      rw [abs_mul, abs_of_pos (two_zpow_pos f)]
      calc |(m : ℚ)| * 2 ^ f ≤ 2 ^ 53 * (2 ^ e / 2) := by
            apply mul_le_mul fitsQ half (two_zpow_pos f).le (by norm_num)
        _ = 2 ^ 52 * 2 ^ e := by ring
    obtain ⟨_, above⟩ := abs_le.1 small
    obtain ⟨below, _⟩ := abs_le.1 small
    rcases abs_cases x with ⟨same, _⟩ | ⟨same, _⟩
    · exact ⟨2 ^ 52, by push_cast; linarith, by push_cast; linarith⟩
    · exact ⟨-2 ^ 52, by push_cast; linarith, by push_cast; linarith⟩

theorem le_of_le (nearest : RoundsBy x r n e) (representable : Representable z) (le : z ≤ x) :
    z ≤ r := by
  obtain ⟨m, zBelow, below⟩ := nearest.exists_multiple representable le
  have step := two_zpow_pos e
  by_contra greater
  have less : (n : ℚ) * 2 ^ e < m * 2 ^ e := by
    rw [← nearest.value]
    linarith
  have next : n + 1 ≤ m := by
    have := lt_of_mul_lt_mul_right less step.le
    exact_mod_cast this
  have nextQ : ((n : ℚ) + 1) * 2 ^ e ≤ m * 2 ^ e := by
    apply mul_le_mul_of_nonneg_right _ step.le
    exact_mod_cast next
  have near := (abs_le.1 nearest.near).2
  rw [two_zpow_pred, nearest.value] at near
  linarith

end RoundsBy

namespace Rounds

variable {x r z : ℚ}

theorem neg (rounds : Rounds x r) : Rounds (-x) (-r) := by
  obtain ⟨n, e, nearest⟩ := rounds
  exact ⟨-n, e, nearest.neg⟩

theorem le_of_le (rounds : Rounds x r) (representable : Representable z) (le : z ≤ x) : z ≤ r := by
  obtain ⟨n, e, nearest⟩ := rounds
  exact nearest.le_of_le representable le

theorem ge_of_ge (rounds : Rounds x r) (representable : Representable z) (ge : x ≤ z) : r ≤ z := by
  have := rounds.neg.le_of_le representable.neg (neg_le_neg ge)
  linarith

theorem eq_self (rounds : Rounds x r) (representable : Representable x) : r = x :=
  le_antisymm (rounds.ge_of_ge representable le_rfl) (rounds.le_of_le representable le_rfl)

/-- Rounding cannot more than double: nought is no farther away. -/
theorem le_two_mul (rounds : Rounds x r) (nonneg : 0 ≤ x) : r ≤ 2 * x := by
  obtain ⟨n, e, nearest⟩ := rounds
  have step := two_zpow_pos e
  have near := (abs_le.1 nearest.near).1
  rw [two_zpow_pred] at near
  rcases le_or_gt n 0 with nothing | some
  · have : r ≤ 0 := by
      rw [nearest.value]
      exact mul_nonpos_of_nonpos_of_nonneg (by exact_mod_cast nothing) step.le
    linarith
  · have : (2 : ℚ) ^ e ≤ r := by
      rw [nearest.value]
      exact le_mul_of_one_le_left step.le (by exact_mod_cast some)
    linarith

/-- Nor does it leave less than half, unless nothing. -/
theorem le_two_mul_of_pos (rounds : Rounds x r) (positive : 0 < r) : x ≤ 2 * r := by
  obtain ⟨n, e, nearest⟩ := rounds
  have step := two_zpow_pos e
  have near := (abs_le.1 nearest.near).2
  rw [two_zpow_pred] at near
  have some : 0 < (n : ℚ) * 2 ^ e := nearest.value ▸ positive
  have one : (1 : ℚ) ≤ n := by exact_mod_cast pos_of_mul_pos_left some step.le
  have : (2 : ℚ) ^ e ≤ r := by
    rw [nearest.value]
    exact le_mul_of_one_le_left step.le one
  linarith

/-! ## Errors below a power of two -/

theorem abs_sub_le (rounds : Rounds x r) {k : ℤ} (normal : -1022 ≤ k) (small : |x| ≤ 2 ^ (k + 1)) :
    |x - r| ≤ 2 ^ (k - 53) := by
  obtain ⟨n, e, nearest⟩ := rounds
  rcases le_or_gt e (k - 52) with fine | coarse
  · exact nearest.near.trans (two_zpow_le.2 (by omega))
  · -- the grid is that coarse only at the power itself, which is not rounded
    have large : (2 : ℚ) ^ (52 + e) ≤ |x| := by
      rcases nearest.above with large | bottom
      · exact large
      · omega
    have exponent : 52 + e = k + 1 := by
      have := two_zpow_le.1 (large.trans small)
      omega
    have size : |x| = 2 ^ (k + 1) := le_antisymm small (exponent ▸ large)
    have power : Representable (2 ^ (k + 1)) := .two_zpow (by omega)
    have representable : Representable x := by
      rcases abs_cases x with ⟨same, _⟩ | ⟨same, _⟩
      · rw [← same, size]
        exact power
      · rw [← neg_neg x, ← same, size]
        exact power.neg
    rw [(Rounds.eq_self ⟨n, e, nearest⟩ representable), sub_self, abs_zero]
    exact (two_zpow_pos _).le

/-- A number above a power of two by at most half a step is rounded to the power, even in a tie: the
next multiple is odd. -/
theorem le_two_zpow (rounds : Rounds x r) {k : ℤ} (normal : -1022 ≤ k)
    (small : x ≤ 2 ^ k + 2 ^ (k - 53)) : r ≤ 2 ^ k := by
  rcases le_or_gt x (2 ^ k) with below | above
  · exact rounds.ge_of_ge (.two_zpow (by omega)) below
  · obtain ⟨n, e, nearest⟩ := rounds
    have positive : 0 < x := (two_zpow_pos k).trans above
    have half := two_zpow_pos (k - 53)
    have exponent : e = k - 52 := by
      have low := nearest.below
      have high := nearest.above
      rw [abs_of_pos positive] at low high
      have coarse := two_zpow_lt.1 (above.trans low)
      rcases high with high | bottom
      · have doubled : (2 : ℚ) ^ (k + 1) = 2 ^ k + 2 ^ k := by
          rw [zpow_add_one₀ two_ne_zero, mul_two]
        have less : (2 : ℚ) ^ (k - 53) < 2 ^ k := two_zpow_lt.2 (by omega)
        have fine : (2 : ℚ) ^ (52 + e) < 2 ^ (k + 1) := by linarith
        have := two_zpow_lt.1 fine
        omega
      · omega
    subst exponent
    have steps : (2 : ℚ) ^ k = 2 ^ 52 * 2 ^ (k - 52) := by
      rw [← two_zpow_add_nat 52 (k - 52)]
      congr 1
      omega
    have halves : (2 : ℚ) ^ (k - 53) = 2 ^ (k - 52) / 2 := by
      rw [← two_zpow_pred]
      congr 1
      omega
    have step := two_zpow_pos (k - 52)
    by_contra greater
    have more : (2 ^ 52 : ℤ) < n := by
      have product : (2 : ℚ) ^ 52 * 2 ^ (k - 52) < n * 2 ^ (k - 52) := by
        rw [← steps, ← nearest.value]
        exact not_le.1 greater
      have := lt_of_mul_lt_mul_right product step.le
      exact_mod_cast this
    have near := (abs_le.1 nearest.near).1
    have even := nearest.even
    rw [two_zpow_pred, nearest.value] at near even
    have least : (2 ^ 52 + 1 : ℚ) * 2 ^ (k - 52) ≤ n * 2 ^ (k - 52) := by
      apply mul_le_mul_of_nonneg_right _ step.le
      exact_mod_cast more
    have tie : |x - n * 2 ^ (k - 52)| = 2 ^ (k - 52) / 2 := by
      rw [abs_sub_comm, abs_of_nonneg (by linarith)]
      linarith
    have odd : n = 2 ^ 52 + 1 := by
      have same : (n : ℚ) * 2 ^ (k - 52) = (2 ^ 52 + 1) * 2 ^ (k - 52) := by linarith
      have := mul_right_cancel₀ step.ne' same
      exact_mod_cast this
    have := even tie
    rw [odd] at this
    exact absurd this (by decide)

theorem representable (rounds : Rounds x r) : Representable r := by
  obtain ⟨n, e, nearest⟩ := rounds
  refine ⟨n, e, ?_, nearest.least, nearest.value⟩
  have step := two_zpow_pos e
  have near := nearest.near
  have below : |x| < 2 ^ 53 * 2 ^ e := by
    rw [← two_zpow_add_nat 53 e]
    exact nearest.below
  rw [two_zpow_pred, nearest.value] at near
  have size : |(n : ℚ)| * 2 ^ e < (2 ^ 53 + 1) * 2 ^ e := by
    calc |(n : ℚ)| * 2 ^ e = |(n : ℚ) * 2 ^ e| := by rw [abs_mul, abs_of_pos step]
      _ = |x - (x - n * 2 ^ e)| := by rw [sub_sub_cancel]
      _ ≤ |x| + |x - n * 2 ^ e| := abs_sub _ _
      _ < (2 ^ 53 + 1) * 2 ^ e := by linarith
  have less := lt_of_mul_lt_mul_right size step.le
  have whole : |n| < 2 ^ 53 + 1 := by exact_mod_cast less
  omega

end Rounds

end Binary64

end Sightline
