import Sightline.Engine.Run
import Sightline.Feed

/-!
# Sessions

A session is an engine whose snapshots go to a feed with one subscriber, who reads everything that
waits for it after each exchange.
-/

set_option autoImplicit false

namespace Sightline

structure Session {α : Type} [Scalar α] (site : Site α) where
  engine : Engine site
  feed : Feed (Snapshot α)

structure Exchange {α : Type} [Scalar α] (site : Site α) (β : Type) where
  result : β
  session : Session site
  targets : Snapshot α
  delivered : List (Delivery (Snapshot α))
  notes : List (Note α)

namespace Session

variable {α : Type} [Scalar α] {site : Site α}

/-- A session on a feed, to which its subscriber comes before anything is published. -/
def start (site : Site α) (feed : Feed (Snapshot α)) : Except Abort (Session site) := do
  .ok ⟨← Engine.create site, feed.subscribe⟩

def deliver {β : Type} (s : Session site) (engine : Engine site) (published : List (Snapshot α))
    (notes : List (Note α)) (result : β) : Exchange site β :=
  let (delivered, feed) := (s.feed.publishAll published).drain 0
  ⟨result, ⟨engine, feed⟩, engine.targets, delivered, notes⟩

def perform (s : Session site) (commands : List (Command α)) :
    Except Abort (Exchange site (List (Reply site))) := do
  let step ← s.engine.performAll commands
  .ok (s.deliver step.engine step.published step.notes step.result)

/-- Runs along a timeline as one exchange; answers the number of ticks, those of commands among
them, and the replies to each arrival. -/
def run (s : Session site) (timeline : Timeline α) :
    Except Abort (Exchange site (Nat × List (List (Reply site)))) := do
  let run ← s.engine.run timeline
  .ok (s.deliver run.engine run.published run.notes (run.ticksSince s.engine, run.replies))

end Session

end Sightline
