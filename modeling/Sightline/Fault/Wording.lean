import Sightline.Fault
import Sightline.Json.Wording

/-!
# How faults are worded
-/

set_option autoImplicit false

namespace Sightline

def Entry.wording : Entry → String
  | .traceStart => "trace start"
  | .traceStop => "trace end"
  | .offerStart => "focal point trace start"
  | .offerStop => "focal point trace end"
  | .strokeStart => "grid trace start"
  | .strokeStop => "grid trace end"
  | .spawnCandidate => "spawn candidate"
  | .motionAngle => "motion event angle"

def Bounds.wording (b : Bounds Float) : String :=
  let side (name : String) (value : Float) := name ++ ": " ++ Decimal.Style.full.write value
  "GridBounds \x7b " ++ side "min_x" b.minX ++ ", " ++ side "min_y" b.minY ++ ", " ++
    side "max_x" b.maxX ++ ", " ++ side "max_y" b.maxY ++ " \x7d"

def PositiveSetting.name : PositiveSetting → String
  | .targetRadius => "focal_point_radius"
  | .increment => "trace_increment"
  | .rayLength => "ray_length"

def SettingsProblem.wording : SettingsProblem Float → String
  | .emptyBounds b => "bounds must be a non-empty rectangle, got " ++ b.wording
  | .noCells => "grid resolution must be non-zero"
  | .retentionOutOfRange value =>
    "decay_retention must be in (0, 1], got " ++ Decimal.Style.plain.write value
  | .notPositive setting value =>
    setting.name ++ " must be positive, got " ++ Decimal.Style.plain.write value
  | .noPeriod => "spawn_period_ms must be non-zero"
  | .untileableBounds b => "grid bounds must be a non-empty finite rectangle, got " ++ b.wording
  | .untileableInto columns rows =>
    "grid resolution must be non-zero, got " ++ toString columns ++ "x" ++ toString rows

/-- Why a document could not be read.  The place of a problem in the text is not reported. -/
def Json.Problem.wording : Json.Problem Float → String
  | .cut => "unexpected end of the text"
  | .malformed => "malformed text"
  | .mismatch what => what.wording

def Fault.wording : Fault Float → String
  | .notFinite entry => "non-finite input in " ++ entry.wording
  | .unknownCamera name => "unknown camera: " ++ name
  | .settings problem => "invalid configuration: " ++ problem.wording
  | .undefinedCamera stand camera =>
    "invalid scene: stand " ++ stand ++ " mounts undefined camera " ++ camera
  | .document problem => "JSON error: " ++ problem.wording

end Sightline
