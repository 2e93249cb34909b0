import Mathlib.Tactic.Linarith
import Mathlib.Tactic.Positivity
import Mathlib.Tactic.Ring
import Sightline.Proofs.Scalar.Lawful
import Sightline.Scalar.Exact

/-!
# Exact numbers are lawful

The numerals, the comparisons and the laws of the tracker's numbers, read in the field of the real
numbers.
-/

set_option autoImplicit false

namespace Sightline

namespace Exact

theorem ofNat_eq (n : ℕ) : (Scalar.ofNat n : ℝ) = n := rfl

theorem zero_eq : (Scalar.ofNat 0 : ℝ) = 0 := Nat.cast_zero

theorem one_eq : (Scalar.ofNat 1 : ℝ) = 1 := Nat.cast_one

theorem lesser_eq_min (a b : ℝ) : Scalar.lesser a b = min a b := by
  unfold Scalar.lesser
  split
  · rename_i below
    exact (min_eq_left below).symm
  · rename_i notBelow
    rw [if_pos (le_refl b)]
    exact (min_eq_right (le_of_not_ge notBelow)).symm

theorem greater_eq_max (a b : ℝ) : Scalar.greater a b = max a b := by
  unfold Scalar.greater
  split
  · rename_i below
    exact (max_eq_left below).symm
  · rename_i notBelow
    rw [if_pos (le_refl b)]
    exact (max_eq_right (le_of_not_ge notBelow)).symm

instance : LawfulScalar ℝ where
  lt_irrefl := fun a => lt_irrefl a
  lt_trans := fun first second => lt_trans first second
  lt_of_lt_of_le := fun first second => lt_of_lt_of_le first second
  mul_one := fun a => by
    change a * Scalar.ofNat 1 = a
    rw [one_eq, mul_one]
  not_pos_mul_zero := fun a => by
    change ¬ Scalar.ofNat 0 < a * Scalar.ofNat 0
    rw [zero_eq, mul_zero]
    exact lt_irrefl 0
  not_pos_lowest := by
    change ¬ Scalar.ofNat 0 < (-1 : ℝ)
    rw [zero_eq]
    norm_num

instance : OrderedScalar ℝ where
  le_trans := fun first second => le_trans first second
  le_of_lt := fun less => le_of_lt less
  le_of_not_lt := fun _ _ notLess => not_lt.1 notLess

instance : SymmetricScalar ℝ where
  add_comm := fun a b => add_comm a b
  sub_mul_self_comm := fun a b => by
    change (a - b) * (a - b) = (b - a) * (b - a)
    ring

end Exact

end Sightline
