import Sightline.Scalar

/-!
# Laws of the numbers

What the choice of a peak, the count of supporters, the crossing of a disc and the distance of two
points rely on.  These laws hold of binary64 in spite of rounding, signed zeros and values outside the
order; associativity and the like do not, and nothing here asks for them.
-/

set_option autoImplicit false

namespace Sightline

/-- Numbers on which a search for a maximum finds one, and on which the weights 0 and 1 do what
they should. -/
class LawfulScalar (α : Type) [Scalar α] : Prop where
  lt_irrefl (a : α) : ¬ a < a
  lt_trans {a b c : α} : a < b → b < c → a < c
  lt_of_lt_of_le {a b c : α} : a < b → b ≤ c → a < c
  mul_one (a : α) : a * 1 = a
  /-- A value outside the order, or a zero of either sign. -/
  not_pos_mul_zero (a : α) : ¬ 0 < a * 0
  not_pos_lowest : ¬ (0 : α) < Scalar.lowest

/-- Numbers whose operations never lead back to the finite ones from outside. -/
class StrictScalar (α : Type) [Scalar α] : Prop where
  finite_of_add {a b : α} : Scalar.isFinite (a + b) = true →
    Scalar.isFinite a = true ∧ Scalar.isFinite b = true
  finite_of_sub {a b : α} : Scalar.isFinite (a - b) = true →
    Scalar.isFinite a = true ∧ Scalar.isFinite b = true
  finite_of_mul {a b : α} : Scalar.isFinite (a * b) = true →
    Scalar.isFinite a = true ∧ Scalar.isFinite b = true
  finite_of_div {a b : α} : Scalar.isFinite (a / b) = true → Scalar.isFinite a = true
  finite_of_sqrt {a : α} : Scalar.isFinite (Scalar.sqrt a) = true → Scalar.isFinite a = true
  finite_of_unit {a : α} : 0 ≤ a → a ≤ 1 → Scalar.isFinite a = true

/-- Numbers of whose ordered values any two compare. -/
class OrderedScalar (α : Type) [Scalar α] : Prop where
  le_trans {a b c : α} : a ≤ b → b ≤ c → a ≤ c
  le_of_lt {a b : α} : a < b → a ≤ b
  le_of_not_lt {a b : α} : a ≤ a → b ≤ b → ¬ a < b → b ≤ a

/-- Numbers that see two points alike from either of them. -/
class SymmetricScalar (α : Type) [Scalar α] : Prop where
  add_comm (a b : α) : a + b = b + a
  sub_mul_self_comm (a b : α) : (a - b) * (a - b) = (b - a) * (b - a)

namespace LawfulScalar

variable {α : Type} [Scalar α] [LawfulScalar α] {threshold value : α}

theorem pos_of_reaches (positive : 0 < threshold) (reaches : threshold ≤ value) : 0 < value :=
  lt_of_lt_of_le positive reaches

end LawfulScalar

end Sightline
