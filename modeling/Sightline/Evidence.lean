import Sightline.Directory
import Sightline.Evidence.Stroke

/-!
# Evidence

A camera tells directions, never distances, so each camera's evidence is kept in a raster of its
own.  A camera gets its raster with its first stroke and keeps it; ticks only fade it.
-/

set_option autoImplicit false

namespace Sightline

structure EvidencePlan (α : Type) [Scalar α] where
  tiling : Tiling α
  increment : α
  retention : α
  maskThreshold : α

abbrev EvidencePlan.Layer {α : Type} [Scalar α] (plan : EvidencePlan α) : Type :=
  Raster α plan.tiling.rows plan.tiling.columns

structure Evidence {α : Type} [Scalar α] (plan : EvidencePlan α) where
  layers : Directory plan.Layer

variable {α : Type} [Scalar α]

def EvidencePlan.ofSettings (s : Settings α) : Except (Fault α) (EvidencePlan α) := do
  let tiling ← Tiling.cut s.bounds s.columns s.rows
  .ok ⟨tiling, s.increment, s.retention, s.maskThreshold⟩

namespace Evidence

variable {plan : EvidencePlan α}

def none : Evidence plan := ⟨.empty⟩

/-- The greatest number of cells that a grid can have, 2 to the power 60 less one. -/
def greatestSize : Nat := 1152921504606846975

def create (plan : EvidencePlan α) : Except Abort (Evidence plan) :=
  if plan.tiling.rows * plan.tiling.columns ≤ greatestSize then .ok none else .error .gridTooLarge

def layer? (e : Evidence plan) (camera : String) : Option plan.Layer := e.layers.get? camera

def cameraCount (e : Evidence plan) : Nat := e.layers.size

def addStroke (e : Evidence plan) (camera : String) (stroke : Stroke α) : Evidence plan :=
  ⟨e.layers.alter camera fun before =>
    stroke.mark plan.tiling (· + plan.increment) (before.getD (.fill _ _ 0))⟩

def addRay (e : Evidence plan) (camera : String) (ray : Segment α) : Except Abort (Evidence plan) := do
  match ← plan.tiling.stroke ray with
  | some stroke => .ok (e.addStroke camera stroke)
  | Option.none => .ok e

def trace (e : Evidence plan) (camera : String) (ray : Segment α) :
    Except Abort (Except (Fault α) (Evidence plan)) :=
  match requireFiniteEnds ray .strokeStart .strokeStop with
  | .error fault => .ok (.error fault)
  | .ok () => do .ok (.ok (← e.addRay camera ray))

def decay (e : Evidence plan) : Evidence plan :=
  ⟨e.layers.map fun layer => layer.map (· * plan.retention)⟩

end Evidence

end Sightline
