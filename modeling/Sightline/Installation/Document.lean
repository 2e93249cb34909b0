import Sightline.Installation
import Sightline.Json.Record

/-!
# Installation documents

The plan of an installation as a document.  Names that are not known are refused, except in poses.
-/

set_option autoImplicit false

namespace Sightline

open Json

variable {α : Type} [Scalar α]

/-- A pose; without a heading it looks along the first axis. -/
def Pose.record : Record α (Pose α) where
  title := "struct Pose"
  strict := false
  draft := ⟨0, 0, 0⟩
  fields :=
    [.of "x" true scalarReader fun pose value => { pose with x := value },
      .of "y" true scalarReader fun pose value => { pose with y := value },
      .of "rot" false scalarReader fun pose value => { pose with heading := value }]

def StandSpec.record : Record α (StandSpec α) where
  title := "struct StandSpec"
  strict := true
  draft := ⟨"", Pose.record.draft, []⟩
  fields :=
    [.of "name" true textReader fun stand value => { stand with name := value },
      .of "pos" true Pose.record.reader fun stand value => { stand with pose := value },
      .of "camera_names" false (sequenceReader textReader)
        fun stand value => { stand with cameras := value }]

def CameraSpec.record : Record α (CameraSpec α) where
  title := "struct CameraSpec"
  strict := true
  draft := ⟨"", "", Pose.record.draft⟩
  fields :=
    [.of "name" true textReader fun camera value => { camera with name := value },
      .of "description" false textReader fun camera value => { camera with description := value },
      .of "pos" true Pose.record.reader fun camera value => { camera with pose := value }]

namespace InstallationPlan

def record : Record α (InstallationPlan α) where
  title := "struct SceneDocument"
  strict := true
  draft := ⟨[], [], none⟩
  fields :=
    [.of "stands" false (sequenceReader StandSpec.record.reader)
        fun plan value => { plan with stands := value },
      .of "cameras" false (sequenceReader CameraSpec.record.reader)
        fun plan value => { plan with cameras := value },
      .of "camera_sensitivity" false (optionReader scalarReader)
        fun plan value => { plan with sensitivity := value }]

end InstallationPlan

def Installation.ofDocument (text : String) : Except (Fault α) (Installation α) :=
  match readAll InstallationPlan.record.reader text with
  | .error problem => .error (.document problem)
  | .ok plan => plan.build

end Sightline
