import Sightline.Engine

/-!
# Commands

Everything that can be asked of an engine, as data: lists of commands are what runs and sessions
are made of.
-/

set_option autoImplicit false

namespace Sightline

inductive Command (α : Type) where
  | trace (camera : String) (ray : Segment α)
  | motion (camera : String) (angle : α)
  | tick
  | advance (time : Duration)
  | focus
  | heatmap
  | closest (point : Point α)
  | tally
  | settings
deriving Repr

inductive Reply {α : Type} [Scalar α] (site : Site α) where
  | traced (outcome : Except (Fault α) RayOutcome)
  | ticked (report : TickReport α)
  | advanced
  | focus (focus : Focus α)
  | heatmap (map : Heatmap site.evidencePlan.tiling.rows site.evidencePlan.tiling.columns)
  | closest (found : Option (View α × α))
  | tally (tally : Tally α)
  | settings (settings : Settings α)

variable {α : Type} [Scalar α] {site : Site α}

/-- The ray that a command brings, with its camera; a motion brings one if its camera is mounted
and its angle is finite. -/
def Command.ray? (site : Site α) : Command α → Option (String × Segment α)
  | .trace camera ray => some (camera, ray)
  | .motion camera angle =>
    match site.installation.ray camera angle site.settings.rayLength with
    | .ok ray => some (camera, ray)
    | .error _ => none
  | _ => none

def Step.map {β γ : Type} (f : β → γ) (step : Step site β) : Step site γ :=
  ⟨f step.result, step.engine, step.notes, step.published⟩

namespace Engine

def perform (e : Engine site) : Command α → Except Abort (Step site (Reply site))
  | .trace camera ray => do .ok ((← e.trace camera ray).map .traced)
  | .motion camera angle => do .ok ((← e.motion camera angle).map .traced)
  | .tick => do .ok ((← e.tick).map .ticked)
  | .advance time => do .ok ((← e.advance time).silently .advanced)
  | .focus => let (focus, after) := e.focus; .ok (after.silently (.focus focus))
  | .heatmap => let (map, after) := e.heatmap; .ok (after.silently (.heatmap map))
  | .closest point => .ok (e.silently (.closest (e.watch.tracker.closest? point)))
  | .tally => .ok (e.silently (.tally e.tally))
  | .settings => .ok (e.silently (.settings site.settings))

def performAll (e : Engine site) : List (Command α) → Except Abort (Step site (List (Reply site)))
  | [] => .ok (e.silently [])
  | command :: later => do
    let first ← e.perform command
    let others ← first.engine.performAll later
    .ok ⟨first.result :: others.result, others.engine, first.notes ++ others.notes,
      first.published ++ others.published⟩

end Engine

end Sightline
