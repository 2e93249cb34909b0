import Sightline.Plane.Point

/-!
# Placements

A placement carries the frame of a mounted thing into the frame that it is mounted in: a rotation,
held as cosine and sine, followed by a shift.  Placements compose, the outer one acting last.
-/

set_option autoImplicit false

namespace Sightline

structure Rotation (α : Type) where
  cos : α
  sin : α
deriving Repr

structure Placement (α : Type) where
  rotation : Rotation α
  shift : Point α
deriving Repr

structure Pose (α : Type) where
  x : α
  y : α
  heading : α
deriving Repr

variable {α : Type} [Scalar α]

namespace Rotation

def ofDegrees (degrees : α) : Rotation α :=
  ⟨Scalar.cos (Scalar.radians degrees), Scalar.sin (Scalar.radians degrees)⟩

def comp (outer inner : Rotation α) : Rotation α :=
  ⟨outer.cos * inner.cos - outer.sin * inner.sin, outer.cos * inner.sin + outer.sin * inner.cos⟩

def turn (r : Rotation α) (v : Point α) : Point α :=
  ⟨r.cos * v.x - r.sin * v.y, r.sin * v.x + r.cos * v.y⟩

/-- The end of a ray of the given reach that leaves the origin along the rotated first axis. -/
def tip (r : Rotation α) (reach : α) : Point α :=
  ⟨r.cos * reach + (-r.sin) * 0, r.sin * reach + r.cos * 0⟩

end Rotation

namespace Placement

/-- The placement of a thing mounted by `inner` on something mounted by `outer`. -/
def comp (outer inner : Placement α) : Placement α :=
  ⟨outer.rotation.comp inner.rotation, outer.shift + outer.rotation.turn inner.shift⟩

def carry (placement : Placement α) (p : Point α) : Point α :=
  placement.rotation.turn p + placement.shift

end Placement

def Pose.placement (pose : Pose α) : Placement α :=
  ⟨Rotation.ofDegrees pose.heading, ⟨pose.x, pose.y⟩⟩

end Sightline
