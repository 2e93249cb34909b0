import Sightline.Proofs.Scalar.Counting
import Sightline.Proofs.Scalar.Exact
import Sightline.Proofs.Scalar.Signs

/-!
# Weighing a sum

What a mask takes away is gone: a finite sum of what is not below zero, weighed with zero, is zero, in
binary64 down to its sign.
-/

set_option autoImplicit false

namespace Sightline

/-- Numbers in which a weight of nothing leaves nothing of a finite sum. -/
class WeighingScalar (α : Type) [Scalar α] : Prop where
  sum_mul_zero {values : List α} : (∀ value ∈ values, 0 ≤ value) →
    Scalar.isFinite (values.foldl (· + ·) 0) = true → values.foldl (· + ·) 0 * 0 = (0 : α)

theorem Binary64.sum_mul_zero {values : List Float}
    (nonneg : ∀ value ∈ values, (Scalar.ofNat 0 : Float) ≤ value)
    (finite : Scalar.isFinite (values.foldl (· + ·) (Scalar.ofNat 0)) = true) :
    values.foldl (· + ·) (Scalar.ofNat 0) * (Scalar.ofNat 0 : Float) = Scalar.ofNat 0 := by
  have upright : Upright (values.foldl (· + ·) (Scalar.ofNat 0 : Float)).toModel.unpack :=
    upright_foldl_add rfl nonneg
  have product := congrArg (fun f => Float.ofModel (Float.Model.pack f))
    (upright.mul_zero (canonical_of_finite finite))
  exact product

instance : WeighingScalar Float := ⟨Binary64.sum_mul_zero⟩

instance : WeighingScalar ℝ where
  sum_mul_zero := fun {values} _ _ => by
    change _ * Scalar.ofNat 0 = Scalar.ofNat 0
    rw [Exact.zero_eq, mul_zero]

instance : CountingScalar ℝ where
  zero_lt_one := by
    change Scalar.ofNat 0 < Scalar.ofNat 1
    rw [Exact.zero_eq, Exact.one_eq]
    exact one_pos
  zero_add_zero := by
    change (Scalar.ofNat 0 : ℝ) + Scalar.ofNat 0 = Scalar.ofNat 0
    rw [Exact.zero_eq, add_zero]
  zero_add_one := by
    change (Scalar.ofNat 0 : ℝ) + Scalar.ofNat 1 = Scalar.ofNat 1
    rw [Exact.zero_eq, zero_add]
  one_add_zero := by
    change (Scalar.ofNat 1 : ℝ) + Scalar.ofNat 0 = Scalar.ofNat 1
    rw [Exact.zero_eq, add_zero]
  one_lt_two := by
    change (Scalar.ofNat 1 : ℝ) < Scalar.ofNat 1 + Scalar.ofNat 1
    rw [Exact.one_eq]
    exact lt_add_one 1
  lt_add_zero := fun {a} above => by
    change Scalar.ofNat 1 < a + Scalar.ofNat 0
    rw [Exact.zero_eq, add_zero]
    exact above
  lt_add_one := fun {a} above => by
    change Scalar.ofNat 1 < a + Scalar.ofNat 1
    change Scalar.ofNat 1 < a at above
    rw [Exact.one_eq] at above ⊢
    exact above.trans (lt_add_one a)

end Sightline
