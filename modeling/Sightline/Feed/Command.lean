import Sightline.Feed

/-!
# Feed commands

Everything that publishers and subscribers do to a feed, as data: a list of commands holds what all of
them do, interleaved in one way or another.
-/

set_option autoImplicit false

namespace Sightline

inductive FeedCommand (β : Type) where
  | publish (item : β)
  | subscribe
  | leave (subscriber : Nat)
  | receive (subscriber : Nat)
deriving Repr

variable {β : Type}

def FeedCommand.isReceiptOf (subscriber : Nat) : FeedCommand β → Bool
  | .receive other => other == subscriber
  | _ => false

namespace Feed

/-- Carries out one command; an answer is for a subscriber that receives, if anything waits for it. -/
def perform (f : Feed β) : FeedCommand β → Option (Delivery β) × Feed β
  | .publish item => (none, f.publish item)
  | .subscribe => (none, f.subscribe)
  | .leave subscriber => (none, f.leave subscriber)
  | .receive subscriber => f.receive subscriber

def performAll (f : Feed β) : List (FeedCommand β) → Feed β
  | [] => f
  | command :: later => (f.perform command).2.performAll later

/-- The answers that a subscriber gets, one for each time that it receives. -/
def answers (f : Feed β) (subscriber : Nat) : List (FeedCommand β) → List (Option (Delivery β))
  | [] => []
  | command :: later =>
    let answers := (f.perform command).2.answers subscriber later
    if command.isReceiptOf subscriber then (f.perform command).1 :: answers else answers

end Feed

end Sightline
