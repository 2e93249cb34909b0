import Sightline.Proofs.Scalar.Exact
import Sightline.Proofs.Scalar.Signs

/-!
# No distance

A place is at no distance from itself, no distance is below zero, and the sign of a difference tells
which number is greater.  In binary64 this is so in spite of rounding: numbers that differ do so by a
multiple of the smallest positive number, so no difference is rounded to zero.
-/

set_option autoImplicit false

namespace Sightline

/-- Numbers that tell whether a distance is below a difference. -/
class DistanceScalar (α : Type) [Scalar α] : Prop where
  sub_self {a : α} : Scalar.isFinite a = true → a - a = 0
  sqrt_no_squares : Scalar.sqrt ((0 : α) * 0 + 0 * 0) = 0
  pos_of_sqrt_lt {a b : α} : Scalar.sqrt a < b → 0 < b
  sub_pos_iff {a b : α} : 0 < a - b ↔ b < a

namespace Binary64

open Float.Model Float.Model.UnpackedFloat

variable {a b : Float} {x : ℚ}

/-! ## Differences -/

theorem unpacked_sub_self {f : UnpackedFloat} (canonical : Canonical f) :
    UnpackedFloat.sub .binary64 f f = .zero .positive := by
  obtain ⟨s, rfl⟩ | ⟨s, m, e, positive, rfl⟩ := canonical_cases canonical
  · cases s <;> rfl
  · simp only [UnpackedFloat.sub, Int.sub_self]
    rfl

theorem sub_self (finite : Scalar.isFinite a = true) : a - a = Scalar.ofNat 0 := by
  change Float.ofModel
    (Float.Model.pack (UnpackedFloat.sub .binary64 a.toModel.unpack a.toModel.unpack)) = _
  rw [unpacked_sub_self (canonical_of_finite finite)]
  rfl

/-- Numbers that differ do so by the smallest positive number at least. -/
theorem Representable.le_sub {y z : ℚ} (first : Representable y) (second : Representable z)
    (less : z < y) : (2 : ℚ) ^ (-1074 : ℤ) ≤ y - z := by
  obtain ⟨m, e, _, fine, rfl⟩ := first
  obtain ⟨n, f, _, fineToo, rfl⟩ := second
  rw [two_zpow_multiple fine, two_zpow_multiple fineToo] at less ⊢
  rw [← mul_assoc, ← mul_assoc, ← sub_mul]
  rw [← mul_assoc, ← mul_assoc] at less
  have step := two_zpow_pos (-1074)
  have apart := lt_of_mul_lt_mul_right less step.le
  have whole : n * 2 ^ (f - -1074).toNat + 1 ≤ m * 2 ^ (e - -1074).toNat := by
    exact_mod_cast apart
  apply le_mul_of_one_le_left step.le
  rw [le_sub_iff_add_le, add_comm]
  exact_mod_cast whole

theorem RoundsTo.pos (rounded : RoundsTo x a) (positive : (2 : ℚ) ^ (-1074 : ℤ) ≤ x) :
    (Scalar.ofNat 0 : Float) < a := by
  have step := two_zpow_pos (-1074)
  by_cases finite : Scalar.isFinite a = true
  · rw [value_lt_value zero_finite finite, value_zero]
    exact step.trans_le ((rounded.rounds_of_finite finite).le_of_le (.two_zpow le_rfl) positive)
  · rw [lt_iff, unpack_zero, rounded.infinite_of_nonneg (step.le.trans positive) finite]
    rfl

theorem RoundsTo.not_pos (rounded : RoundsTo x a) (nonpos : x ≤ 0) :
    ¬ (Scalar.ofNat 0 : Float) < a := by
  by_cases finite : Scalar.isFinite a = true
  · rw [value_lt_value zero_finite finite, value_zero, not_lt]
    exact (rounded.rounds_of_finite finite).ge_of_ge .zero nonpos
  · obtain ⟨s, infinite, beyond⟩ := rounded.infinite finite
    -- an infinite result has the sign of what was rounded to it, which is past one
    have one := beyond 1 (.two_zpow (f := 0) (by norm_num)) (one_lt_pow₀ one_lt_two (by norm_num))
    rw [lt_iff, unpack_zero, infinite]
    cases s with
    | positive =>
        rw [signum_positive] at one
        linarith
    | negative => decide

/-- Outside the finite numbers the signs decide. -/
theorem unpacked_pos_sub {f g : UnpackedFloat} (infinite : ¬ (f.isFinite = true ∧ g.isFinite = true)) :
    UnpackedFloat.lt (.zero .positive) (Float.Model.pack (UnpackedFloat.sub .binary64 f g)).unpack =
      g.lt f := by
  rcases f with (_ | _) | _ | (_ | _) | ⟨_ | _, m, e, _⟩ <;>
    rcases g with (_ | _) | _ | (_ | _) | ⟨_ | _, m', e', _⟩ <;>
      first
        | exact absurd ⟨rfl, rfl⟩ infinite
        | rfl
        | simp only [UnpackedFloat.sub]; rfl

theorem sub_pos_iff : (Scalar.ofNat 0 : Float) < a - b ↔ b < a := by
  by_cases finite : Scalar.isFinite a = true ∧ Scalar.isFinite b = true
  · obtain ⟨first, second⟩ := finite
    have rounded := sub_roundsTo first second
    rw [value_lt_value second first]
    constructor
    · intro positive
      by_contra notLess
      exact rounded.not_pos (sub_nonpos.2 (not_lt.1 notLess)) positive
    · intro less
      exact rounded.pos ((value_representable first).le_sub (value_representable second) less)
  · rw [lt_iff, lt_iff, unpack_zero]
    exact iff_of_eq (congrArg (· = true) (unpacked_pos_sub finite))

/-! ## Square roots -/

theorem pos_of_sqrt_lt (less : Scalar.sqrt a < b) : (Scalar.ofNat 0 : Float) < b := by
  rw [lt_iff] at less ⊢
  rw [unpack_zero]
  change UnpackedFloat.lt (Float.Model.pack (UnpackedFloat.sqrt .binary64 a.toModel.unpack)).unpack
    b.toModel.unpack = true at less
  by_cases negative : a.toModel.unpack = .zero .negative
  · -- zeros of either sign are equal
    rw [negative, unpacked_lt_iff] at less
    rw [unpacked_lt_iff]
    exact less
  · exact (upright_sqrt negative).packed.pos_of_lt less

end Binary64

instance : DistanceScalar Float where
  sub_self := Binary64.sub_self
  sqrt_no_squares := rfl
  pos_of_sqrt_lt := Binary64.pos_of_sqrt_lt
  sub_pos_iff := Binary64.sub_pos_iff

instance : DistanceScalar ℝ where
  sub_self := fun {a} _ => by
    change a - a = Scalar.ofNat 0
    rw [Exact.zero_eq, sub_self]
  sqrt_no_squares := by
    change √(Scalar.ofNat 0 * Scalar.ofNat 0 + Scalar.ofNat 0 * Scalar.ofNat 0) = Scalar.ofNat 0
    rw [Exact.zero_eq, mul_zero, add_zero, Real.sqrt_zero]
  pos_of_sqrt_lt := fun {a b} less => by
    change Scalar.ofNat 0 < b
    rw [Exact.zero_eq]
    exact (Real.sqrt_nonneg a).trans_lt less
  sub_pos_iff := fun {a b} => by
    change Scalar.ofNat 0 < a - b ↔ b < a
    rw [Exact.zero_eq]
    exact sub_pos

end Sightline
