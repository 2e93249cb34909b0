import Sightline.Abort

/-!
# Feeds

A feed passes published items to any number of subscribers, each at its own pace.  It keeps the
newest items up to its capacity; a subscriber that has fallen further behind is told how many items
it has lost, and goes on with the oldest one still kept.
-/

set_option autoImplicit false

namespace Sightline

/-- A bounded feed.  Subscribers are numbered in the order in which they came; each has read all
items before its mark. -/
structure Feed (β : Type) where
  capacity : Nat
  kept : List β
  lost : Nat
  marks : List (Option Nat)
deriving Repr

inductive Delivery (β : Type) where
  | item (value : β)
  | lagged (items : Nat)
deriving Repr

namespace Feed

variable {β : Type}

def powerOfTwoFrom (n : Nat) : Nat := if n ≤ 1 then 1 else Nat.pow 2 ((n - 1).log2 + 1)

def ofCapacity (capacity : Nat) : Feed β := ⟨powerOfTwoFrom capacity, [], 0, []⟩

def greatestCapacity : Nat := 144115188075855872

def create (capacity : Nat) : Except Abort (Feed β) :=
  if capacity ≤ greatestCapacity then .ok (ofCapacity capacity) else .error .feedTooLarge

def published (f : Feed β) : Nat := f.lost + f.kept.length

def subscribers (f : Feed β) : Nat := (f.marks.filter (·.isSome)).length

def subscribe (f : Feed β) : Feed β := { f with marks := f.marks ++ [some f.published] }

def leave (f : Feed β) (subscriber : Nat) : Feed β :=
  { f with marks := f.marks.set subscriber none }

/-- Publishes an item; without a subscriber it is dropped. -/
def publish (f : Feed β) (item : β) : Feed β :=
  if f.subscribers = 0 then f
  else if f.kept.length < f.capacity then { f with kept := f.kept ++ [item] }
  else { f with kept := f.kept.drop 1 ++ [item], lost := f.lost + 1 }

def publishAll (f : Feed β) (items : List β) : Feed β := items.foldl publish f

def receive (f : Feed β) (subscriber : Nat) : Option (Delivery β) × Feed β :=
  match f.marks[subscriber]? with
  | some (some mark) =>
    if f.capacity < f.published - mark then
      (some (.lagged (f.published - mark - f.capacity)),
        { f with marks := f.marks.set subscriber (some (f.published - f.capacity)) })
    else
      match f.kept[mark - f.lost]? with
      | some item => (some (.item item), { f with marks := f.marks.set subscriber (some (mark + 1)) })
      | none => (none, f)
  | _ => (none, f)

def drainFrom (subscriber : Nat) : Nat → Feed β → List (Delivery β) × Feed β
  | 0, f => ([], f)
  | fuel + 1, f =>
    match f.receive subscriber with
    | (none, after) => ([], after)
    | (some delivery, after) =>
      let (later, drained) := drainFrom subscriber fuel after
      (delivery :: later, drained)

/-- Everything that waits for a subscriber: at most one report of a loss and the kept items. -/
def drain (f : Feed β) (subscriber : Nat) : List (Delivery β) × Feed β :=
  drainFrom subscriber (f.kept.length + 2) f

end Feed

end Sightline
