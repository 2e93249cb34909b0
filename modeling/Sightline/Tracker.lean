import Sightline.Fault
import Sightline.Target

/-!
# The tracker

The tracker holds the live targets in the order in which they were set, and the rules by which they
are set, moved, joined and dropped.

* A ray is claimed by the target that it enters nearest to its start, the first set of equals.
* Of the pairs that overlap, the first one merges: the first target moves to the middle and the
  second goes.
* A target that has outlived its time to live is dropped.
* A candidate becomes a target unless it overlaps a camera or a live target.
-/

set_option autoImplicit false

namespace Sightline

structure TrackerPlan (α : Type) where
  radius : α
  ttl : Duration
  sensitivity : α
  mergeSlack : α
  spawnSlack : α
  cameras : List (Point α)
deriving Repr

structure Tracker (α : Type) where
  targets : List (Tracked α)
  issuer : IdIssuer
deriving Repr

/-- A target that may claim a ray: its index, how far its entry is from the start of the ray
(squared), and the middle of the crossing. -/
structure Claim (α : Type) where
  index : Nat
  distance : α
  middle : Point α
deriving Repr

structure Merge (α : Type) where
  survivor : TargetId
  removed : TargetId
  position : Point α
deriving Repr

inductive SpawnVerdict where
  | underCamera
  | onTarget
  | spawned (id : TargetId)
deriving Repr, DecidableEq

namespace Tracker

variable {α : Type} [Scalar α]

def empty : Tracker α := ⟨[], .fresh⟩

def snapshot (t : Tracker α) : Snapshot α := t.targets.map Tracked.view

/-! ## Claims -/

def betterClaim (ray : Segment α) (best : Option (Claim α)) (entry : Tracked α × Nat) :
    Option (Claim α) :=
  match entry.1.disc.crossing? ray with
  | none => best
  | some crossing =>
    let claim : Claim α := ⟨entry.2, (crossing.entry - ray.start).normSq, crossing.midpoint⟩
    match best with
    | none => some claim
    | some held => if claim.distance < held.distance then some claim else best

def claim? (targets : List (Tracked α)) (ray : Segment α) : Option (Claim α) :=
  targets.zipIdx.foldl (betterClaim ray) none

def offerFinite (plan : TrackerPlan α) (t : Tracker α) (now : Instant) (ray : Segment α) :
    Bool × Tracker α :=
  match claim? t.targets ray with
  | none => (false, t)
  | some claim =>
    (true, { t with
      targets := t.targets.modify claim.index fun target =>
        target.nudge claim.middle plan.sensitivity now })

def offer (plan : TrackerPlan α) (t : Tracker α) (now : Instant) (ray : Segment α) :
    Except (Fault α) (Bool × Tracker α) := do
  requireFiniteEnds ray .offerStart .offerStop
  .ok (t.offerFinite plan now ray)

/-! ## Merging -/

/-- The first pair of distinct indices whose targets overlap. -/
def overlappingPair? (targets : List (Tracked α)) (slack : α) :
    Option ((Tracked α × Nat) × (Tracked α × Nat)) :=
  targets.zipIdx.findSome? fun first =>
    (targets.zipIdx.find? fun second =>
      first.2 != second.2 && first.1.overlaps second.1.toTarget slack).map fun second =>
        (first, second)

def merge? (plan : TrackerPlan α) (t : Tracker α) : Option (Merge α × Tracker α) :=
  (overlappingPair? t.targets plan.mergeSlack).map fun (first, second) =>
    let middle := (first.1.position + second.1.position).scale 0.5
    (⟨first.1.id, second.1.id, middle⟩,
      { t with targets := (t.targets.modify first.2 (·.moveTo middle)).eraseIdx second.2 })

/-! ## Expiry -/

def sift (now : Instant) : List (Tracked α) → Except Abort (List (Tracked α) × List TargetId)
  | [] => .ok ([], [])
  | target :: later => do
    let expired ← target.isExpired now
    let (kept, gone) ← sift now later
    if expired then .ok (kept, target.id :: gone) else .ok (target :: kept, gone)

def expire (t : Tracker α) (now : Instant) : Except Abort (List TargetId × Tracker α) := do
  let (kept, gone) ← sift now t.targets
  .ok (gone, { t with targets := kept })

/-! ## Spawning -/

/-- Sets a target at a finite candidate unless it overlaps a camera or a live target. -/
def spawnFinite (plan : TrackerPlan α) (t : Tracker α) (now : Instant) (candidate : Point α) :
    SpawnVerdict × Tracker α :=
  let probe : Target α := ⟨candidate, plan.radius, plan.ttl, now⟩
  if plan.cameras.any fun camera => probe.disc.overlaps ⟨camera, plan.radius⟩ plan.spawnSlack then
    (.underCamera, t)
  else if t.targets.any fun target => probe.overlaps target.toTarget plan.spawnSlack then
    (.onTarget, t)
  else
    let (id, issuer) := t.issuer.next
    (.spawned id, ⟨t.targets ++ [{ probe with id := id }], issuer⟩)

def spawn (plan : TrackerPlan α) (t : Tracker α) (now : Instant) (candidate : Point α) :
    Except (Fault α) (SpawnVerdict × Tracker α) := do
  requireFinite candidate .spawnCandidate
  .ok (t.spawnFinite plan now candidate)

/-! ## The nearest target -/

/-- Targets nearer than the square root of this to a point are taken to stand on it. -/
def coincident : α := 1e-5

def nearerTo (p : Point α) (best : Option (Tracked α × α)) (target : Tracked α) :
    Option (Tracked α × α) :=
  let distance := (target.position - p).normSq
  if coincident ≤ distance then
    match best with
    | none => some (target, distance)
    | some held => if distance < held.2 then some (target, distance) else best
  else best

def closest? (t : Tracker α) (p : Point α) : Option (View α × α) :=
  (t.targets.foldl (nearerTo p) none).map fun (target, distance) =>
    (target.view, Scalar.sqrt distance)

end Tracker

end Sightline
