/-!
# The numbers that the tracker computes with

Every geometric and raster computation of this library is written once, over any type of numbers
that offers the operations of `Scalar`.  The instance for binary64 runs the tracker; an instance
for an exact field gives the same definitions their textbook meaning.

The order may have values that compare with nothing (in binary64 these are the ones that are not
numbers); a value `x` is ordered exactly when `x ≤ x`.
-/

set_option autoImplicit false

namespace Sightline

class Scalar (α : Type) where
  addition : Add α
  subtraction : Sub α
  multiplication : Mul α
  division : Div α
  negation : Neg α
  strictOrder : LT α
  order : LE α
  decimals : OfScientific α
  decLt : ∀ a b : α, Decidable (a < b)
  decLe : ∀ a b : α, Decidable (a ≤ b)
  /-- The number nearest to a count below 2^64. -/
  ofNat : Nat → α
  isFinite : α → Bool
  /-- The largest count not above the number, held between 0 and 2^64 - 1; 0 outside the order. -/
  floorCount : α → Nat
  sqrt : α → α
  sin : α → α
  cos : α → α
  pi : α
  /-- Where a search for a maximum starts: no value of the order lies below it. -/
  lowest : α

namespace Scalar

/-! A type with operations of its own keeps them: `Scalar` speaks only where nothing else does. -/

section Operations

variable {α : Type} [Scalar α]

instance (priority := low) : Add α := Scalar.addition

instance (priority := low) : Sub α := Scalar.subtraction

instance (priority := low) : Mul α := Scalar.multiplication

instance (priority := low) : Div α := Scalar.division

instance (priority := low) : Neg α := Scalar.negation

instance (priority := low) : LT α := Scalar.strictOrder

instance (priority := low) : LE α := Scalar.order

instance (priority := low) : OfScientific α := Scalar.decimals

instance (priority := low) (a b : α) : Decidable (a < b) := Scalar.decLt a b

instance (priority := low) (a b : α) : Decidable (a ≤ b) := Scalar.decLe a b

instance (priority := low) (n : Nat) : OfNat α n := ⟨Scalar.ofNat n⟩

end Operations

variable {α : Type} [Scalar α]

/-- Equality as the order sees it; a value outside the order equals nothing. -/
def same (a b : α) : Bool := decide (a ≤ b) && decide (b ≤ a)

/-- The smaller of two numbers; a value outside the order gives way, and of equals the first stays. -/
def lesser (a b : α) : α := if a ≤ b then a else if b ≤ b then b else a

def greater (a b : α) : α := if b ≤ a then a else if b ≤ b then b else a

/-- The peak of a running maximum and one more value; a value outside the order changes nothing. -/
def peakWith (peak value : α) : α := if peak < value then value else peak

def isPositive (a : α) : Bool := decide (0 < a) && isFinite a

/-- The angle in radians: the ratio of half a turn to 180 is formed first. -/
def radians (degrees : α) : α := degrees * (pi / 180)

/-- The nearest whole level between 0 and 255, halves going up; 0 outside the order. -/
def level (a : α) : UInt8 :=
  let whole := floorCount a
  let rounded := if 0.5 ≤ a - ofNat whole then whole + 1 else whole
  UInt8.ofNat (min rounded 255)

end Scalar

end Sightline
