import Sightline.Proofs.Scalar.Values

/-!
# Signs and powers of ten

A sign changes no size, and the powers of ten up to the 308th do not overflow.
-/

set_option autoImplicit false

namespace Sightline

namespace Binary64

open Float.Model Float.Model.UnpackedFloat

variable {a b : Float}

theorem neg_finite (finite : Scalar.isFinite a = true) : Scalar.isFinite (-a) = true := by
  have canonical := canonical_neg (canonical_of_finite finite)
  have small : |exactly a.toModel.unpack.neg| < 2 ^ 1024 := by
    rw [exactly_neg, abs_neg]
    exact abs_value_lt finite
  rw [isFinite_eq]
  change (Float.Model.pack a.toModel.unpack.neg).unpack.isFinite = true
  rw [unpack_pack canonical small]
  exact isFinite_of_canonical canonical

/-- What does not overflow still does not when it is divided by one or more. -/
theorem div_finite (first : Scalar.isFinite a = true) (second : Scalar.isFinite b = true)
    (some : 1 ≤ value b) : Scalar.isFinite (a / b) = true := by
  have shorter : |value a / value b| ≤ |value a| := by
    rw [abs_div]
    exact div_le_self (abs_nonneg _) (some.trans (le_abs_self _))
  obtain ⟨lower, upper⟩ := abs_le.1 shorter
  have representable := value_representable first
  have size : Representable |value a| := by
    rcases abs_choice (value a) with same | same
    · rwa [same]
    · rw [same]
      exact representable.neg
  exact ((div_roundsTo first second (zero_lt_one.trans_le some).ne').finite_of_mem size.neg size
    (neg_lt_neg (abs_value_lt first)) (abs_value_lt first) lower upper).1

/-! ## Powers of ten -/

/-- The smaller powers stand in a table. -/
theorem ten_pow_small : ∀ n < 23, Scalar.isFinite (OfScientific.ofScientific 1 false n : Float) = true ∧
    (Scalar.ofNat 1 : Float) ≤ OfScientific.ofScientific 1 false n := by
  decide +kernel

theorem ten_pow_roundsTo {n : ℕ} (large : 23 ≤ n) (bounded : n ≤ 308) :
    RoundsTo (10 ^ n) (OfScientific.ofScientific 1 false n : Float) := by
  refine ⟨UnpackedFloat.ofScientific .binary64 1 n, ?_, ?_⟩
  · have fine : 2 ^ 52 ≤ (1 <<< 53) * 10 ^ n :=
      (by decide : 2 ^ 52 ≤ 1 <<< 53).trans (Nat.le_mul_of_pos_right _ (by positivity))
    have nearest : Nearest
        (signum (.positive * .positive) * ((((1 <<< 53) * 10 ^ n : ℕ) : ℚ) * 2 ^ (-53 + 0 : ℤ)))
        (roundWithAccuracy .binary64 (.positive * .positive) ((1 <<< 53) * 10 ^ n) (-53 + 0) .exact) :=
      roundWithAccuracy_nearest _ rfl (.inr fine)
    have exactly : signum (.positive * .positive) * ((((1 <<< 53) * 10 ^ n : ℕ) : ℚ) * 2 ^ (-53 + 0 : ℤ)) =
        10 ^ n := by
      rw [signum_mul, signum_positive]
      push_cast
      norm_num
      ring
    rw [exactly] at nearest
    have limit : (2 : ℤ) ^ Format.binary64.exponentBits = 2048 := rfl
    rw [UnpackedFloat.ofScientific, limit, dif_neg (by decide), if_neg (by omega), if_neg (by omega),
      if_pos (by omega)]
    exact nearest
  · change Float.ofScientific 1 false n = _
    rw [Float.ofScientific, dif_neg (by omega)]
    rfl

/-- A number above 10^308 that does not overflow. -/
theorem ten_pow_limit : (10 : ℚ) ^ 308 ≤ 3 * 2 ^ (1022 : ℤ) ∧ 3 * 2 ^ (1022 : ℤ) < (2 : ℚ) ^ 1024 := by
  constructor
  · have counted : ((10 ^ 308 : ℕ) : ℚ) ≤ (3 * 2 ^ 1022 : ℕ) := Nat.cast_le.2 (by decide +kernel)
    rw [Nat.cast_mul, Nat.cast_pow, Nat.cast_pow, Nat.cast_ofNat, Nat.cast_ofNat, Nat.cast_ofNat]
      at counted
    exact counted.trans_eq (congrArg _ (zpow_natCast 2 1022).symm)
  · calc 3 * (2 : ℚ) ^ (1022 : ℤ) < 2 ^ 2 * 2 ^ (1022 : ℤ) :=
          mul_lt_mul_of_pos_right (by norm_num) (two_zpow_pos _)
      _ = 2 ^ 1024 := by
        rw [← two_zpow_add_nat 2 1022]
        exact zpow_natCast 2 1024

theorem ten_pow_finite {n : ℕ} (bounded : n ≤ 308) :
    Scalar.isFinite (OfScientific.ofScientific 1 false n : Float) = true ∧
      1 ≤ value (OfScientific.ofScientific 1 false n) := by
  by_cases small : n < 23
  · obtain ⟨finite, one⟩ := ten_pow_small n small
    rw [value_le_value rfl finite, value_ofNat (by norm_num)] at one
    exact ⟨finite, by exact_mod_cast one⟩
  · have one : Representable 1 := .two_zpow (f := 0) (by norm_num)
    have top : Representable (3 * 2 ^ (1022 : ℤ)) := ⟨3, 1022, by norm_num, by norm_num, by norm_num⟩
    have lower : (1 : ℚ) ≤ 10 ^ n := one_le_pow₀ (by norm_num)
    have upper : (10 : ℚ) ^ n ≤ 3 * 2 ^ (1022 : ℤ) :=
      (pow_le_pow_right₀ (by norm_num) bounded).trans ten_pow_limit.1
    obtain ⟨finite, rounds⟩ := (ten_pow_roundsTo (by omega) bounded).finite_of_mem one top
      (neg_limit_lt_zero.trans one_pos) ten_pow_limit.2 lower upper
    exact ⟨finite, rounds.le_of_le one lower⟩

end Binary64

end Sightline
