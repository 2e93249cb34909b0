import Sightline.Tracker

/-!
# Tracker commands

Everything that can be asked of a tracker that keeps its own time, as data.
-/

set_option autoImplicit false

namespace Sightline

inductive TrackerCommand (α : Type) where
  | offer (ray : Segment α)
  | spawn (candidate : Point α)
  | merge
  | expire
  | advance (time : Duration)
deriving Repr

inductive TrackerReply (α : Type) where
  | offered (claimed : Except (Fault α) Bool)
  | spawned (verdict : Except (Fault α) SpawnVerdict)
  | merged (merge : Option (Merge α))
  | expired (ids : List TargetId)
  | advanced

structure Lookout (α : Type) where
  tracker : Tracker α
  now : Instant
deriving Repr

namespace Lookout

variable {α : Type} [Scalar α]

def start : Lookout α := ⟨.empty, .zero⟩

/-- Carries out one command; what is refused changes nothing. -/
def perform (plan : TrackerPlan α) (l : Lookout α) :
    TrackerCommand α → Except Abort (TrackerReply α × Lookout α)
  | .offer ray =>
    match l.tracker.offer plan l.now ray with
    | .ok (claimed, tracker) => .ok (.offered (.ok claimed), { l with tracker := tracker })
    | .error fault => .ok (.offered (.error fault), l)
  | .spawn candidate =>
    match l.tracker.spawn plan l.now candidate with
    | .ok (verdict, tracker) => .ok (.spawned (.ok verdict), { l with tracker := tracker })
    | .error fault => .ok (.spawned (.error fault), l)
  | .merge =>
    match l.tracker.merge? plan with
    | some (merge, tracker) => .ok (.merged (some merge), { l with tracker := tracker })
    | none => .ok (.merged none, l)
  | .expire => do
    let (gone, tracker) ← l.tracker.expire l.now
    .ok (.expired gone, { l with tracker := tracker })
  | .advance time => do
    let now ← l.now.after time
    .ok (.advanced, { l with now := now })

def performAll (plan : TrackerPlan α) (l : Lookout α) :
    List (TrackerCommand α) → Except Abort (List (TrackerReply α) × Lookout α)
  | [] => .ok ([], l)
  | command :: later => do
    let (reply, after) ← l.perform plan command
    let (replies, last) ← after.performAll plan later
    .ok (reply :: replies, last)

end Lookout

end Sightline
