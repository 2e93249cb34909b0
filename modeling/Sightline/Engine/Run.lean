import Sightline.Engine.Command

/-!
# Runs

A run waits for the warm-up and then ticks once a period until it is stopped; it is woken by a
timer, and between wakings commands arrive at their times.  Every wait also looks for the stop, and
so does the run before each tick.  Times are in milliseconds from the start of the run; the clock of
the engine does not follow them.
-/

set_option autoImplicit false

namespace Sightline

structure Timeline (α : Type) where
  stop : Nat
  stoppedFirst : Bool
  /-- Commands with the times at which they arrive together, in the order in which they are carried
  out. -/
  arrivals : List (Nat × List (Command α))
  /-- Which of the two a wait sees if its timer and the stop fall together. -/
  timerFirst : Bool := false
deriving Repr

inductive Phase where
  | warmingUp
  | ticking
deriving Repr, DecidableEq

structure Run {α : Type} [Scalar α] (site : Site α) where
  engine : Engine site
  replies : List (List (Reply site))
  notes : List (Note α)
  published : List (Snapshot α)

variable {α : Type} [Scalar α] {site : Site α}

namespace Run

def follow {β : Type} (run : Run site) (step : Step site β) : Run site :=
  { run with
    engine := step.engine
    notes := run.notes ++ step.notes
    published := run.published ++ step.published }

def note (run : Run site) (note : Note α) : Run site := { run with notes := run.notes ++ [note] }

def arrive (run : Run site) (commands : List (Command α)) : Except Abort (Run site) := do
  let step ← run.engine.performAll commands
  .ok { run.follow step with replies := run.replies ++ [step.result] }

def tick (run : Run site) : Except Abort (Run site) := do
  let step ← run.engine.tick
  .ok (run.follow step)

def ticksSince (run : Run site) (before : Engine site) : Nat :=
  (run.engine.tally.ticks - before.tally.ticks).toNat

def arriveAll (run : Run site) : List (Nat × List (Command α)) → Except Abort (Run site)
  | [] => .ok run
  | (_, commands) :: later => do (← run.arrive commands).arriveAll later

def due? (stop wake : Nat) :
    List (Nat × List (Command α)) → Option (List (Command α) × List (Nat × List (Command α)))
  | [] => none
  | (time, commands) :: later =>
    if time ≤ wake ∧ time ≤ stop then some (commands, later) else none

/-- Whether a wait until `wake` ends with the stop. -/
def stopSeen (stop : Nat) (timerFirst : Bool) (wake : Nat) : Bool :=
  if timerFirst then stop < wake else stop ≤ wake

/-- Goes on until the stop; the timer is set to `wake`.  Each step takes an arrival or moves the
timer on, so `fuel` need not be above their number. -/
def goOn (stop : Nat) (timerFirst : Bool) :
    Nat → Phase → Nat → List (Nat × List (Command α)) → Run site → Except Abort (Run site)
  | 0, _, _, _, run => .ok run
  | fuel + 1, phase, wake, arrivals, run =>
    match due? stop wake arrivals with
    | some (commands, later) => do
      goOn stop timerFirst fuel phase wake later (← run.arrive commands)
    | none =>
      let next := wake + site.settings.spawnPeriod
      match phase with
      | .warmingUp =>
        if stopSeen stop timerFirst wake then (run.note .runCancelledEarly).arriveAll arrivals
        else goOn stop timerFirst fuel .ticking next arrivals run
      | .ticking => do
        if stopSeen stop timerFirst wake || stop ≤ wake then
          (run.note .runStopped).arriveAll arrivals
        else goOn stop timerFirst fuel .ticking next arrivals (← run.tick)

end Run

namespace Engine

/-- Runs along a timeline.  With a period above zero the timer moves on by a millisecond at least,
and so is set at most `stop + 1` times before the stop.  A run that was stopped before it starts
sees the stop in its first wait, or in the second if the first is over at once. -/
def run (e : Engine site) (timeline : Timeline α) : Except Abort (Run site) :=
  let starting := Note.runStarting site.settings.period site.settings.warmupTime
  let run : Run site := ⟨e, [], [starting], []⟩
  if timeline.stoppedFirst then
    let early := Run.stopSeen 0 timeline.timerFirst site.settings.warmup
    (run.note (if early then .runCancelledEarly else .runStopped)).arriveAll timeline.arrivals
  else
    Run.goOn timeline.stop timeline.timerFirst (timeline.arrivals.length + timeline.stop + 2)
      .warmingUp site.settings.warmup timeline.arrivals run

end Engine

end Sightline
