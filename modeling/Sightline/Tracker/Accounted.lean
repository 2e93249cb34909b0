import Sightline.Note
import Sightline.Tally
import Sightline.Tracker

/-!
# Accounted steps of the tracker

Each rule of the tracker, with what it adds to the tally and what it reports.  The number of live
targets is gauged after every step that may have changed it.
-/

set_option autoImplicit false

namespace Sightline

structure Watch (α : Type) where
  tracker : Tracker α
  tally : Tally α
deriving Repr

structure Watched (α β : Type) where
  result : β
  watch : Watch α
  notes : List (Note α)
deriving Repr

namespace Watch

variable {α : Type} [Scalar α]

def start : Watch α := ⟨.empty, .zero⟩

/-- The watch with another tracker, whose live targets are gauged. -/
def gauge (w : Watch α) (tracker : Tracker α) : Watch α :=
  ⟨tracker, w.tally.read .liveTargets (Scalar.ofNat tracker.targets.length)⟩

def count (w : Watch α) (counter : Counter) : Watch α := { w with tally := w.tally.count counter }

def merge (w : Watch α) (plan : TrackerPlan α) : Watched α (Option (Merge α)) :=
  match w.tracker.merge? plan with
  | none => ⟨none, w, []⟩
  | some (merge, tracker) =>
    ⟨some merge, (w.gauge tracker).count .merged,
      [.targetMerged merge.removed merge.survivor merge.position]⟩

def expire (w : Watch α) (now : Instant) : Except Abort (Watched α (List TargetId)) := do
  let (gone, tracker) ← w.tracker.expire now
  .ok ⟨gone, gone.foldl (fun counted _ => counted.count .expired) (w.gauge tracker),
    gone.map .targetExpired⟩

def spawn (w : Watch α) (plan : TrackerPlan α) (now : Instant) (candidate : Point α) :
    Except (Fault α) (Watched α (Option TargetId)) := do
  let (verdict, tracker) ← w.tracker.spawn plan now candidate
  let tried := w.count .spawnTried
  match verdict with
  | .underCamera => .ok ⟨none, tried.count .spawnUnderCamera, []⟩
  | .onTarget => .ok ⟨none, tried.count .spawnOnTarget, []⟩
  | .spawned id =>
    .ok ⟨some id, (tried.gauge tracker).count .spawned, [.targetSpawned id candidate]⟩

def offer (w : Watch α) (plan : TrackerPlan α) (now : Instant) (ray : Segment α) :
    Except (Fault α) (Bool × Watch α) := do
  let (claimed, tracker) ← w.tracker.offer plan now ray
  .ok (claimed, { w with tracker := tracker })

end Watch

end Sightline
