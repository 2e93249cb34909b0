import Sightline.Scalar

/-!
# Points and segments of the ground plane

A point doubles as a vector.  All sums are formed in the order in which they are written, so that
a rounding arithmetic gives one definite result.
-/

set_option autoImplicit false

namespace Sightline

/-- A point or a direction on the ground plane, in metres. -/
structure Point (α : Type) where
  x : α
  y : α
deriving Repr

structure Segment (α : Type) where
  start : Point α
  stop : Point α
deriving Repr

variable {α : Type} [Scalar α]

namespace Point

instance : Add (Point α) := ⟨fun p q => ⟨p.x + q.x, p.y + q.y⟩⟩

instance : Sub (Point α) := ⟨fun p q => ⟨p.x - q.x, p.y - q.y⟩⟩

def scale (p : Point α) (factor : α) : Point α := ⟨p.x * factor, p.y * factor⟩

def dot (p q : Point α) : α := p.x * q.x + p.y * q.y

def normSq (p : Point α) : α := p.dot p

def norm (p : Point α) : α := Scalar.sqrt p.normSq

def isFinite (p : Point α) : Bool := Scalar.isFinite p.x && Scalar.isFinite p.y

@[simp] theorem add_x (p q : Point α) : (p + q).x = p.x + q.x := rfl

@[simp] theorem add_y (p q : Point α) : (p + q).y = p.y + q.y := rfl

@[simp] theorem sub_x (p q : Point α) : (p - q).x = p.x - q.x := rfl

@[simp] theorem sub_y (p q : Point α) : (p - q).y = p.y - q.y := rfl

@[simp] theorem scale_x (p : Point α) (factor : α) : (p.scale factor).x = p.x * factor := rfl

@[simp] theorem scale_y (p : Point α) (factor : α) : (p.scale factor).y = p.y * factor := rfl

end Point

namespace Segment

def along (s : Segment α) : Point α := s.stop - s.start

def pointAt (s : Segment α) (t : α) : Point α := s.start + s.along.scale t

def midpoint (s : Segment α) : Point α := s.pointAt 0.5

def isFinite (s : Segment α) : Bool := s.start.isFinite && s.stop.isFinite

end Segment

end Sightline
