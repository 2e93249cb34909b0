import Sightline.Decimal.Fixed
import Sightline.Fault.Wording
import Sightline.Target
import Sightline.Time.Spelling

/-!
# Notes

What the tracker reports while it works, each with its importance.
-/

set_option autoImplicit false

namespace Sightline

inductive Importance where
  | debug
  | info
  | warn
deriving Repr, DecidableEq

inductive Note (α : Type) where
  | targetMerged (removed survivor : TargetId) (position : Point α)
  | targetExpired (id : TargetId)
  | targetSpawned (id : TargetId) (position : Point α)
  | rayRejected (camera : String) (fault : Fault α)
  | spawnRejected (fault : Fault α)
  | unknownCamera (name : String)
  | runStarting (period warmup : Duration)
  | runCancelledEarly
  | runStopped
deriving Repr

namespace Note

variable {α : Type}

def importance : Note α → Importance
  | .targetMerged .. | .targetExpired _ | .targetSpawned .. => .debug
  | .rayRejected .. | .spawnRejected _ | .unknownCamera _ => .warn
  | .runStarting .. | .runCancelledEarly | .runStopped => .info

def place (p : Point Float) : String :=
  "(" ++ Decimal.fixed 3 p.x ++ ", " ++ Decimal.fixed 3 p.y ++ ")"

def wording : Note Float → String
  | .targetMerged removed survivor position =>
    "focal point merged: " ++ removed.name ++ " into " ++ survivor.name ++ " at " ++ place position
  | .targetExpired id => "focal point expired: " ++ id.name
  | .targetSpawned id position => "spawning new focal point " ++ id.name ++ " at " ++ place position
  | .rayRejected camera fault => "rejected trace from " ++ camera ++ ": " ++ fault.wording
  | .spawnRejected fault => "not spawning at saliency peak: " ++ fault.wording
  | .unknownCamera name => "detected motion from unknown camera: " ++ name
  | .runStarting period warmup =>
    "tracking loop starting (period " ++ period.spelled ++ ", warm-up " ++ warmup.spelled ++ ")"
  | .runCancelledEarly => "tracking loop cancelled during warm-up"
  | .runStopped => "tracking loop stopped"

end Note

end Sightline
