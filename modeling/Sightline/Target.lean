import Sightline.Plane.Disc
import Sightline.Time.Instant

/-!
# Targets

A target is a place where somebody is believed to stand.  It catches rays within its radius, and
lives for its time to live after the last ray that it claimed.
-/

set_option autoImplicit false

namespace Sightline

structure Target (α : Type) where
  position : Point α
  radius : α
  ttl : Duration
  /-- When it was set or last claimed a ray. -/
  refreshed : Instant
deriving Repr

structure TargetId where
  serial : UInt64
deriving Repr, DecidableEq

structure Tracked (α : Type) extends Target α where
  id : TargetId
deriving Repr

structure View (α : Type) where
  id : TargetId
  x : α
  y : α
  ttlSeconds : α
deriving Repr

abbrev Snapshot (α : Type) : Type := List (View α)

structure IdIssuer where
  last : UInt64
deriving Repr, DecidableEq

def TargetId.name (id : TargetId) : String := "g" ++ toString id.serial.toNat

namespace IdIssuer

def fresh : IdIssuer := ⟨0⟩

def next (issuer : IdIssuer) : TargetId × IdIssuer := (⟨issuer.last + 1⟩, ⟨issuer.last + 1⟩)

def take (issuer : IdIssuer) : Nat → List TargetId
  | 0 => []
  | n + 1 => let (id, later) := issuer.next; id :: later.take n

end IdIssuer

namespace Target

variable {α : Type} [Scalar α]

def disc (t : Target α) : Disc α := ⟨t.position, t.radius⟩

def overlaps (t other : Target α) (slack : α) : Bool := t.disc.overlaps other.disc slack

def expiry (t : Target α) : Except Abort Instant := t.refreshed.after t.ttl

def isExpired (t : Target α) (now : Instant) : Except Abort Bool := do
  let expiry ← t.expiry
  .ok (decide (expiry.nanos < now.nanos))

/-- The time to live in seconds: the whole seconds and the fraction, each converted and then added. -/
def ttlSeconds (t : Target α) : α :=
  Scalar.ofNat t.ttl.seconds + Scalar.ofNat t.ttl.subsecond / 1000000000

end Target

namespace Tracked

variable {α : Type} [Scalar α]

def view (t : Tracked α) : View α := ⟨t.id, t.position.x, t.position.y, t.ttlSeconds⟩

def moveTo (t : Tracked α) (position : Point α) : Tracked α :=
  { t with position := position }

def nudge (t : Tracked α) (middle : Point α) (sensitivity : α) (now : Instant) : Tracked α :=
  { t with
    position := t.position + (middle - t.position).scale sensitivity
    refreshed := now }

end Tracked

end Sightline
