import Sightline.Plane.Point

/-!
# Discs, and the segments that cross them

A segment crosses a disc when the line through it meets the circle twice and both meetings lie on
the segment: one that starts or stops inside the disc does not cross it.  The crossing parameters
are the roots of `a t² + b t + c` for the segment seen from the centre.
-/

set_option autoImplicit false

namespace Sightline

structure Disc (α : Type) where
  center : Point α
  radius : α
deriving Repr

structure Crossing (α : Type) where
  t0 : α
  t1 : α
  entry : Point α
  exit : Point α
deriving Repr

variable {α : Type} [Scalar α]

def Crossing.midpoint (crossing : Crossing α) : Point α :=
  Segment.midpoint ⟨crossing.entry, crossing.exit⟩

namespace Disc

/-- Segments whose squared length is not above this (2 to the power -52) cross nothing. -/
def shortestSquare : α := 1 / 4503599627370496

def onSegment (t : α) : Bool := decide (0 ≤ t) && decide (t ≤ 1)

def roots (a b c : α) : Option (α × α) :=
  let discriminant := b * b - 4 * a * c
  if discriminant < 0 then none
  else
    let root := Scalar.sqrt discriminant
    let first := (-b - root) / (2 * a)
    let second := (-b + root) / (2 * a)
    some (Scalar.lesser first second, Scalar.greater first second)

def crossing? (disc : Disc α) (segment : Segment α) : Option (Crossing α) :=
  let fromCenter := segment.start - disc.center
  let direction := (segment.stop - disc.center) - fromCenter
  let a := direction.normSq
  if a ≤ shortestSquare then none
  else
    match roots a (2 * direction.dot fromCenter) (fromCenter.normSq - disc.radius * disc.radius) with
    | none => none
    | some (t0, t1) =>
      if onSegment t0 && onSegment t1 then
        some ⟨t0, t1, segment.pointAt t0, segment.pointAt t1⟩
      else none

/-- Two discs overlap by more than `slack`: their centres are nearer than the radii less the slack. -/
def overlaps (disc other : Disc α) (slack : α) : Bool :=
  decide ((other.center - disc.center).norm < disc.radius + other.radius - slack)

end Disc

end Sightline
