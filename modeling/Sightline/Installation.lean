import Sightline.Directory
import Sightline.Fault
import Sightline.Plane.Placement

/-!
# Installations

Cameras are mounted on stands: where a camera is and which way it looks follows from the pose of
its stand and its own pose relative to the stand.  A name mounted again replaces what it named.
-/

set_option autoImplicit false

namespace Sightline

structure Camera (α : Type) where
  name : String
  stand : Option String
  placement : Placement α
deriving Repr

structure Installation (α : Type) where
  cameras : Directory (Camera α)
  sensitivity : Option α

structure CameraSpec (α : Type) where
  name : String
  description : String
  pose : Pose α
deriving Repr

structure StandSpec (α : Type) where
  name : String
  pose : Pose α
  cameras : List String
deriving Repr

/-- The plan of an installation.  A camera is there only if a stand mounts it. -/
structure InstallationPlan (α : Type) where
  stands : List (StandSpec α)
  cameras : List (CameraSpec α)
  sensitivity : Option α
deriving Repr

namespace Camera

variable {α : Type}

def position (c : Camera α) : Point α := c.placement.shift

end Camera

namespace Installation

variable {α : Type} [Scalar α]

def empty : Installation α := ⟨.empty, none⟩

def mount (i : Installation α) (name : String) (stand : Option String) (standPose ownPose : Pose α) :
    Installation α :=
  { i with
    cameras := i.cameras.insert name
      ⟨name, stand, standPose.placement.comp ownPose.placement⟩ }

def camera? (i : Installation α) (name : String) : Option (Camera α) := i.cameras.get? name

def positions (i : Installation α) : List (Point α) := i.cameras.values.map Camera.position

/-- The share of the way that targets move, if the installation gives one other than zero. -/
def ownSensitivity (i : Installation α) : Option α :=
  i.sensitivity.filter fun value => !Scalar.same value 0

def ray (i : Installation α) (name : String) (angle reach : α) : Except (Fault α) (Segment α) :=
  match i.camera? name with
  | none => .error (.unknownCamera name)
  | some camera =>
    if Scalar.isFinite angle then
      .ok ⟨camera.placement.carry ⟨0, 0⟩,
        camera.placement.carry ((Rotation.ofDegrees angle).tip reach)⟩
    else .error (.notFinite .motionAngle)

end Installation

namespace InstallationPlan

variable {α : Type} [Scalar α]

/-- The description of a camera; of several with one name the last. -/
def spec? (plan : InstallationPlan α) (name : String) : Option (CameraSpec α) :=
  plan.cameras.reverse.find? (·.name = name)

def mountAll (plan : InstallationPlan α) (stand : StandSpec α) :
    Installation α → List String → Except (Fault α) (Installation α)
  | i, [] => .ok i
  | i, name :: later =>
    match plan.spec? name with
    | none => .error (.undefinedCamera stand.name name)
    | some spec => plan.mountAll stand (i.mount name (some stand.name) stand.pose spec.pose) later

def mountStands (plan : InstallationPlan α) :
    Installation α → List (StandSpec α) → Except (Fault α) (Installation α)
  | i, [] => .ok i
  | i, stand :: later => do
    let mounted ← plan.mountAll stand i stand.cameras
    plan.mountStands mounted later

def build (plan : InstallationPlan α) : Except (Fault α) (Installation α) :=
  plan.mountStands ⟨.empty, plan.sensitivity⟩ plan.stands

end InstallationPlan

end Sightline
