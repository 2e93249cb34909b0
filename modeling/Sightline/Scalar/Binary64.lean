import Sightline.Scalar

/-!
# Binary64 as the tracker's numbers

The operations are those of `Float`, each rounded once.  `Float.toUInt64` drops the fraction and
keeps its result between 0 and 2^64 - 1, so on the numbers it meets it is the floor.
-/

set_option autoImplicit false

namespace Sightline

instance : Scalar Float where
  addition := inferInstance
  subtraction := inferInstance
  multiplication := inferInstance
  division := inferInstance
  negation := inferInstance
  strictOrder := inferInstance
  order := inferInstance
  decimals := inferInstance
  decLt := fun a b => Float.decLt a b
  decLe := fun a b => Float.decLe a b
  ofNat := fun n => (UInt64.ofNat n).toFloat
  isFinite := Float.isFinite
  floorCount := fun a => a.toUInt64.toNat
  sqrt := Float.sqrt
  sin := Float.sin
  cos := Float.cos
  pi := 3.141592653589793
  lowest := Float.ofBits 0xfff0000000000000

end Sightline
