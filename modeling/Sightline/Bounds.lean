import Sightline.Scalar

/-!
# The watched rectangle
-/

set_option autoImplicit false

namespace Sightline

/-- An axis-parallel rectangle of the ground plane, in metres. -/
structure Bounds (α : Type) where
  minX : α
  minY : α
  maxX : α
  maxY : α
deriving Repr

namespace Bounds

variable {α : Type} [Scalar α]

def standard : Bounds α := ⟨-10, -10, 10, 10⟩

def isOpen (b : Bounds α) : Bool := decide (b.minX < b.maxX) && decide (b.minY < b.maxY)

def isFinite (b : Bounds α) : Bool :=
  Scalar.isFinite b.minX && Scalar.isFinite b.minY && Scalar.isFinite b.maxX &&
    Scalar.isFinite b.maxY

def same (b other : Bounds α) : Bool :=
  Scalar.same b.minX other.minX && Scalar.same b.minY other.minY &&
    Scalar.same b.maxX other.maxX && Scalar.same b.maxY other.maxY

end Bounds

end Sightline
