import Sightline.Proofs.Scalar.Sizes

/-!
# Counting with the numbers of a raster

A mask that is the sum of ones tells one camera from several, however many there are: what is above
one stays there, also where binary64 can no longer add one.
-/

set_option autoImplicit false

namespace Sightline

/-- Numbers in which a sum of zeros and ones is above one exactly when it has more than one one. -/
class CountingScalar (α : Type) [Scalar α] : Prop where
  zero_lt_one : (0 : α) < 1
  zero_add_zero : (0 : α) + 0 = 0
  zero_add_one : (0 : α) + 1 = 1
  one_add_zero : (1 : α) + 0 = 1
  one_lt_two : (1 : α) < 1 + 1
  lt_add_zero {a : α} : 1 < a → 1 < a + 0
  lt_add_one {a : α} : 1 < a → 1 < a + 1

theorem Binary64.lt_add {a b : Float} (above : (Scalar.ofNat 1 : Float) < a)
    (nonneg : (Scalar.ofNat 0 : Float) ≤ b) : (Scalar.ofNat 1 : Float) < a + b := by
  have one : (Scalar.ofNat 0 : Float) < Scalar.ofNat 1 := by decide +kernel
  have first : (Scalar.ofNat 0 : Float) ≤ a := le_of_lt (lt_trans one above)
  exact lt_of_lt_of_le above (le_add_of_nonneg first nonneg)

instance : CountingScalar Float where
  zero_lt_one := by decide +kernel
  zero_add_zero := rfl
  zero_add_one := rfl
  one_add_zero := rfl
  one_lt_two := by decide +kernel
  lt_add_zero := fun above => Binary64.lt_add above (by decide +kernel)
  lt_add_one := fun above => Binary64.lt_add above (by decide +kernel)

end Sightline
