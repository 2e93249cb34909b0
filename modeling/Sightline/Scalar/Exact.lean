import Mathlib.Analysis.Real.Sqrt
import Mathlib.Analysis.SpecialFunctions.Trigonometric.Basic
import Sightline.Scalar

/-!
# Exact numbers

The real numbers as the tracker's numbers: nothing is rounded and every number is finite.  They have
no lowest value; levels of evidence are never below zero, so a search for the greatest of them may
start below zero anywhere.
-/

set_option autoImplicit false

namespace Sightline

noncomputable instance : Scalar ℝ where
  addition := inferInstance
  subtraction := inferInstance
  multiplication := inferInstance
  division := inferInstance
  negation := inferInstance
  strictOrder := inferInstance
  order := inferInstance
  decimals := inferInstance
  decLt := fun a b => Classical.propDecidable (a < b)
  decLe := fun a b => Classical.propDecidable (a ≤ b)
  ofNat := fun n => n
  isFinite := fun _ => true
  floorCount := fun a => min ⌊a⌋₊ (2 ^ 64 - 1)
  sqrt := Real.sqrt
  sin := Real.sin
  cos := Real.cos
  pi := Real.pi
  lowest := -1

end Sightline
