import Sightline.Evidence.Survey
import Sightline.Installation
import Sightline.Quiet
import Sightline.Tracker.Accounted

/-!
# The engine

A ray is offered to the live targets first; only a ray that none of them claims leaves evidence.
A tick sets a target at the focus if the evidence there is strong enough, merges one pair, fades
the evidence and drops the targets that have outlived their time to live.  Every ray that is let in
and every tick publishes the live targets.
-/

set_option autoImplicit false

namespace Sightline

structure Site (α : Type) [Scalar α] where
  settings : Settings α
  installation : Installation α
  evidencePlan : EvidencePlan α

inductive RayOutcome where
  | claimed
  | gathered
deriving Repr, DecidableEq

structure TickReport (α : Type) where
  focus : Focus α
  spawned : Option TargetId
  merged : Option (Merge α)
  expired : List TargetId
deriving Repr

/-- What the engine holds: evidence, live targets with the tally, the time, and when unknown cameras
were last reported. -/
structure Engine {α : Type} [Scalar α] (site : Site α) where
  evidence : Evidence site.evidencePlan
  watch : Watch α
  now : Instant
  quiet : Quiet

variable {α : Type} [Scalar α]

def TrackerPlan.ofSettings (s : Settings α) (installation : Installation α) : TrackerPlan α where
  radius := s.targetRadius
  ttl := s.ttl
  sensitivity := installation.ownSensitivity.getD s.sensitivity
  mergeSlack := s.mergeSlack
  spawnSlack := s.spawnSlack
  cameras := installation.positions

namespace Site

def create (s : Settings α) (installation : Installation α) : Except (Fault α) (Site α) := do
  let checked ← s.checked
  let plan ← EvidencePlan.ofSettings checked
  .ok ⟨checked, installation, plan⟩

def trackerPlan (site : Site α) : TrackerPlan α := .ofSettings site.settings site.installation

end Site

/-- What a step of the engine answers, leaves, reports and publishes. -/
structure Step {α : Type} [Scalar α] (site : Site α) (β : Type) where
  result : β
  engine : Engine site
  notes : List (Note α)
  published : List (Snapshot α)

namespace Engine

variable {site : Site α}

def start (site : Site α) : Engine site := ⟨.none, .start, .zero, .none⟩

def create (site : Site α) : Except Abort (Engine site) := do
  let evidence ← Evidence.create site.evidencePlan
  .ok { start site with evidence := evidence }

def targets (e : Engine site) : Snapshot α := e.watch.tracker.snapshot

def tally (e : Engine site) : Tally α := e.watch.tally

def count (e : Engine site) (counter : Counter) : Engine site :=
  { e with watch := e.watch.count counter }

def withTally (e : Engine site) (tally : Tally α) : Engine site :=
  { e with watch := { e.watch with tally := tally } }

def silently {β : Type} (e : Engine site) (result : β) : Step site β := ⟨result, e, [], []⟩

def publishing {β : Type} (e : Engine site) (result : β) (notes : List (Note α)) : Step site β :=
  ⟨result, e, notes, [e.targets]⟩

/-! ## Rays -/

def accept (e : Engine site) (camera : String) (ray : Segment α) :
    Except Abort (Step site (Except (Fault α) RayOutcome)) :=
  match e.watch.offer site.trackerPlan e.now ray with
  | .error fault => .ok (e.silently (.error fault))
  | .ok (true, watch) =>
    .ok (({ e with watch := watch }.count .rayClaimed).publishing (.ok .claimed) [])
  | .ok (false, watch) => do
    let counted := { e with watch := watch }.count .rayGathered
    match ← e.evidence.trace camera ray with
    | .error fault => .ok (counted.silently (.error fault))
    | .ok evidence => .ok ({ counted with evidence := evidence }.publishing (.ok .gathered) [])

def trace (e : Engine site) (camera : String) (ray : Segment α) :
    Except Abort (Step site (Except (Fault α) RayOutcome)) :=
  match requireFiniteEnds ray .traceStart .traceStop with
  | .error fault =>
    .ok ⟨.error fault, e.count .inputRejected, [.rayRejected camera fault], []⟩
  | .ok () => e.accept camera ray

/-- Reports an unknown camera unless it was reported a short while ago. -/
def noteUnknown (e : Engine site) (name : String) :
    Step site (Except (Fault α) RayOutcome) :=
  let (due, quiet) := e.quiet.report site.settings.quietTime e.now name
  ⟨.error (.unknownCamera name), { e with quiet := quiet },
    if due then [.unknownCamera name] else [], []⟩

def motion (e : Engine site) (camera : String) (angle : α) :
    Except Abort (Step site (Except (Fault α) RayOutcome)) :=
  match site.installation.ray camera angle site.settings.rayLength with
  | .ok ray => e.trace camera ray
  | .error (.unknownCamera name) => .ok (e.noteUnknown name)
  | .error fault => .ok ((e.count .inputRejected).silently (.error fault))

/-! ## Ticks -/

def spawnAt (watch : Watch α) (site : Site α) (now : Instant) (focus : Focus α) :
    Watched α (Option TargetId) :=
  if site.settings.spawnThreshold ≤ focus.value then
    match watch.spawn site.trackerPlan now focus.position with
    | .ok spawned => spawned
    | .error fault => ⟨none, watch, [.spawnRejected fault]⟩
  else ⟨none, watch, []⟩

/-- The part of a tick before the merging: the tick is counted, the focus is read, and a target may
be set there. -/
def spawning (e : Engine site) : Focus α × Watched α (Option TargetId) :=
  let ticking := e.watch.count .ticks
  let (focus, tally) := e.evidence.focus ticking.tally
  (focus, spawnAt { ticking with tally := tally } site e.now focus)

def tick (e : Engine site) : Except Abort (Step site (TickReport α)) := do
  let (focus, spawned) := e.spawning
  let merged := spawned.watch.merge site.trackerPlan
  let evidence := e.evidence.decay
  let expired ← merged.watch.expire e.now
  .ok ({ e with evidence := evidence, watch := expired.watch }.publishing
    ⟨focus, spawned.result, merged.result, expired.result⟩
    (spawned.notes ++ merged.notes ++ expired.notes))

/-! ## The clock and queries -/

def advance (e : Engine site) (time : Duration) : Except Abort (Engine site) := do
  let now ← e.now.after time
  .ok { e with now := now }

def focus (e : Engine site) : Focus α × Engine site :=
  let (focus, tally) := e.evidence.focus e.tally
  (focus, e.withTally tally)

def heatmap (e : Engine site) :
    Heatmap site.evidencePlan.tiling.rows site.evidencePlan.tiling.columns × Engine site :=
  let (heatmap, tally) := e.evidence.heatmap e.tally
  (heatmap, e.withTally tally)

end Engine

end Sightline
