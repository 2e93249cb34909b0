import Sightline.Fault
import Sightline.Json.Record

/-!
# Settings documents

Every setting may be left out and then has its standard value; names that are not settings are
passed over.  Settings read from a document are checked.
-/

set_option autoImplicit false

namespace Sightline

open Json

variable {α : Type} [Scalar α]

def Bounds.record : Record α (Bounds α) where
  title := "struct GridBounds"
  strict := false
  draft := ⟨0, 0, 0, 0⟩
  fields :=
    [.of "min_x" true scalarReader fun b value => { b with minX := value },
      .of "min_y" true scalarReader fun b value => { b with minY := value },
      .of "max_x" true scalarReader fun b value => { b with maxX := value },
      .of "max_y" true scalarReader fun b value => { b with maxY := value }]

namespace Settings

def scalarField (name : String) (put : Settings α → α → Settings α) : Field α (Settings α) :=
  .of name false scalarReader put

def sizeField (name : String) (put : Settings α → Nat → Settings α) : Field α (Settings α) :=
  .of name false (countReader "usize") put

def millisField (name : String) (put : Settings α → Nat → Settings α) : Field α (Settings α) :=
  .of name false (countReader "u64") put

def record : Record α (Settings α) where
  title := "struct TrackingConfig"
  strict := false
  draft := standard
  fields :=
    [.of "bounds" false Bounds.record.reader fun s value => { s with bounds := value },
      sizeField "grid_width" fun s value => { s with columns := value },
      sizeField "grid_height" fun s value => { s with rows := value },
      millisField "spawn_period_ms" fun s value => { s with spawnPeriod := value },
      millisField "warmup_ms" fun s value => { s with warmup := value },
      scalarField "focal_point_radius" fun s value => { s with targetRadius := value },
      millisField "focal_point_ttl_ms" fun s value => { s with targetTtl := value },
      scalarField "camera_sensitivity" fun s value => { s with sensitivity := value },
      scalarField "trace_increment" fun s value => { s with increment := value },
      scalarField "decay_retention" fun s value => { s with retention := value },
      scalarField "mask_threshold" fun s value => { s with maskThreshold := value },
      scalarField "spawn_threshold" fun s value => { s with spawnThreshold := value },
      scalarField "merge_slack" fun s value => { s with mergeSlack := value },
      scalarField "spawn_slack" fun s value => { s with spawnSlack := value },
      scalarField "ray_length" fun s value => { s with rayLength := value },
      millisField "unknown_camera_log_interval_ms"
        fun s value => { s with unknownCameraInterval := value }]

def ofDocument (text : String) : Except (Fault α) (Settings α) :=
  match readAll record.reader text with
  | .error problem => .error (.document problem)
  | .ok s => s.checked

end Settings

end Sightline
