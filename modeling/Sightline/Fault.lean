import Sightline.Plane.Point
import Sightline.Settings
import Sightline.Json.Problem

/-!
# Faults

What can be refused: an input with a coordinate that is not finite, a camera that is not mounted,
settings, an installation, or a document.  After a fault the session goes on.
-/

set_option autoImplicit false

namespace Sightline

inductive Entry where
  | traceStart
  | traceStop
  | offerStart
  | offerStop
  | strokeStart
  | strokeStop
  | spawnCandidate
  | motionAngle
deriving Repr, DecidableEq

inductive Fault (α : Type) where
  | notFinite (entry : Entry)
  | unknownCamera (name : String)
  | settings (problem : SettingsProblem α)
  | undefinedCamera (stand camera : String)
  | document (problem : Json.Problem α)
deriving Repr

variable {α : Type} [Scalar α]

def Settings.checked (s : Settings α) : Except (Fault α) (Settings α) :=
  match s.problem? with
  | some problem => .error (.settings problem)
  | none => .ok s

def requireFinite (p : Point α) (entry : Entry) : Except (Fault α) Unit :=
  if p.isFinite then .ok () else .error (.notFinite entry)

/-- Lets only segments with finite ends pass; the start is looked at first. -/
def requireFiniteEnds (segment : Segment α) (start stop : Entry) : Except (Fault α) Unit := do
  requireFinite segment.start start
  requireFinite segment.stop stop

end Sightline
