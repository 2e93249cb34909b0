import Mathlib.Algebra.Group.Nat.Defs
import Mathlib.Order.Bounds.Basic
import Mathlib.Data.Nat.Log
import Sightline.Feed.Command

/-!
# Subscribers miss nothing unawares

What a subscriber is answered depends on nothing but the items that are published while it stays and
on when it receives: each item once and in order, or the number of items that it has missed.
-/

set_option autoImplicit false

namespace Sightline

variable {β : Type}

/-! ## Reading -/

namespace Delivery

/-- Deliveries read items out: each in its turn, or passed over in a loss that counts it.  The last
list is what they leave unread. -/
inductive ReadsOut : List (Delivery β) → List β → List β → Prop
  | nothing (items : List β) : ReadsOut [] items items
  | item {later : List (Delivery β)} {items left : List β} (value : β)
      (rest : ReadsOut later items left) : ReadsOut (.item value :: later) (value :: items) left
  | lagged {later : List (Delivery β)} {items left : List β} (missed : List β)
      (rest : ReadsOut later items left) :
      ReadsOut (.lagged missed.length :: later) (missed ++ items) left

/-- What is delivered of unread items: a loss if they are more than the capacity, else the first. -/
def next? (capacity : Nat) (unread : List β) : Option (Delivery β) :=
  if capacity < unread.length then some (.lagged (unread.length - capacity))
  else unread.head?.map .item

/-- What stays unread when the next delivery has been taken; after a loss, as many items as the
capacity. -/
def rest (capacity : Nat) (unread : List β) : List β :=
  if capacity < unread.length then unread.drop (unread.length - capacity) else unread.tail

theorem ReadsOut.skip {missed : Nat} {unread items left : List β} {later : List (Delivery β)}
    (enough : missed ≤ unread.length) (read : ReadsOut later (unread.drop missed ++ items) left) :
    ReadsOut (.lagged missed :: later) (unread ++ items) left := by
  have counted : (unread.take missed).length = missed := List.length_take_of_le enough
  have skipped := ReadsOut.lagged (unread.take missed) read
  rw [counted, ← List.append_assoc, List.take_append_drop] at skipped
  exact skipped

theorem ReadsOut.next {capacity : Nat} {unread items left : List β} {later : List (Delivery β)}
    (read : ReadsOut later (rest capacity unread ++ items) left) :
    ReadsOut ((next? capacity unread).toList ++ later) (unread ++ items) left := by
  unfold rest at read
  unfold next?
  by_cases behind : capacity < unread.length
  · rw [if_pos behind] at read ⊢
    exact read.skip (Nat.sub_le _ _)
  · rw [if_neg behind] at read ⊢
    cases unread with
    | nil => exact read
    | cons value others => exact .item value read

end Delivery

namespace FeedCommand

/-- The items that are published before a subscriber leaves. -/
def sentTo (subscriber : Nat) : List (FeedCommand β) → List β
  | [] => []
  | .publish item :: later => item :: sentTo subscriber later
  | .leave other :: later => if other = subscriber then [] else sentTo subscriber later
  | _ :: later => sentTo subscriber later

def subscriptions (commands : List (FeedCommand β)) : Nat :=
  commands.countP fun
    | .subscribe => true
    | _ => false

/-- The unread items of a subscriber after a command; nothing at all once it has left. -/
def leftBy (capacity subscriber : Nat) (unread : Option (List β)) : FeedCommand β → Option (List β)
  | .publish item => unread.map (· ++ [item])
  | .subscribe => unread
  | .leave other => if other = subscriber then none else unread
  | .receive other => if other = subscriber then unread.map (Delivery.rest capacity) else unread

/-- The answers that a subscriber would get if nobody else were there. -/
def reading (capacity subscriber : Nat) :
    Option (List β) → List (FeedCommand β) → List (Option (Delivery β))
  | _, [] => []
  | unread, command :: later =>
    let answers := reading capacity subscriber (command.leftBy capacity subscriber unread) later
    if command.isReceiptOf subscriber then unread.bind (Delivery.next? capacity) :: answers
    else answers

theorem foldl_leftBy_none (capacity subscriber : Nat) (commands : List (FeedCommand β)) :
    commands.foldl (leftBy capacity subscriber) none = none := by
  induction commands with
  | nil => rfl
  | cons command later ih =>
      cases command <;> simp [leftBy, ih]

theorem reading_none (capacity subscriber : Nat) (commands : List (FeedCommand β)) :
    (reading capacity subscriber none commands).filterMap id = [] := by
  induction commands with
  | nil => rfl
  | cons command later ih =>
      have still : leftBy capacity subscriber none command = none := by
        cases command <;> simp [leftBy]
      simp only [reading, still, Option.bind_none]
      split
      · simpa using ih
      · exact ih

/-- What is read out is what was unread at first and what has been sent since. -/
theorem reading_readsOut (capacity subscriber : Nat) (commands : List (FeedCommand β)) :
    ∀ unread, ∃ left,
      Delivery.ReadsOut ((reading capacity subscriber (some unread) commands).filterMap id)
        (unread ++ sentTo subscriber commands) left ∧
      (.leave subscriber ∉ commands →
        commands.foldl (leftBy capacity subscriber) (some unread) = some left) ∧
      (.leave subscriber ∈ commands →
        commands.foldl (leftBy capacity subscriber) (some unread) = none) := by
  induction commands with
  | nil =>
      intro unread
      exact ⟨unread, by simpa [reading, sentTo] using .nothing unread, fun _ => rfl, nofun⟩
  | cons command later ih =>
      intro unread
      cases command with
      | publish item =>
          obtain ⟨left, read, stays, leaves⟩ := ih (unread ++ [item])
          refine ⟨left, ?_, ?_, ?_⟩
          · simpa [reading, leftBy, isReceiptOf, sentTo] using read
          · simpa [leftBy] using stays
          · simpa [leftBy] using leaves
      | subscribe =>
          obtain ⟨left, read, stays, leaves⟩ := ih unread
          exact ⟨left, read, by simpa [leftBy] using stays, by simpa [leftBy] using leaves⟩
      | leave other =>
          by_cases own : other = subscriber
          · subst own
            have ended : reading capacity other (some unread) (.leave other :: later) =
                reading capacity other none later := by
              simp [reading, leftBy, isReceiptOf]
            refine ⟨unread, ?_, ?_, ?_⟩
            · rw [ended, reading_none]
              simpa [sentTo] using .nothing unread
            · intro absent
              simp at absent
            · intro _
              -- Nothing is unread any more, even if the same number leaves again later.
              simpa [leftBy] using foldl_leftBy_none capacity other later
          · obtain ⟨left, read, stays, leaves⟩ := ih unread
            refine ⟨left, ?_, ?_, ?_⟩
            · simpa [reading, leftBy, isReceiptOf, sentTo, own] using read
            · simpa [leftBy, own, Ne.symm own] using stays
            · simpa [leftBy, own, Ne.symm own] using leaves
      | receive other =>
          by_cases own : other = subscriber
          · subst own
            obtain ⟨left, read, stays, leaves⟩ := ih (Delivery.rest capacity unread)
            refine ⟨left, ?_, ?_, ?_⟩
            · have answered := read.next
              cases next : Delivery.next? capacity unread with
              | none =>
                  rw [next] at answered
                  simpa [reading, leftBy, isReceiptOf, sentTo, next] using answered
              | some delivery =>
                  rw [next] at answered
                  simpa [reading, leftBy, isReceiptOf, sentTo, next] using answered
            · simpa [leftBy] using stays
            · simpa [leftBy] using leaves
          · obtain ⟨left, read, stays, leaves⟩ := ih unread
            refine ⟨left, ?_, ?_, ?_⟩
            · simpa [reading, leftBy, isReceiptOf, sentTo, own] using read
            · simpa [leftBy, own] using stays
            · simpa [leftBy, own] using leaves

/-- What one subscriber does and all that is published, the subscriber being the only one. -/
def own (subscriber : Nat) : List (FeedCommand β) → List (FeedCommand β)
  | [] => []
  | .publish item :: later => .publish item :: own subscriber later
  | .subscribe :: later => own subscriber later
  | .leave other :: later =>
    if other = subscriber then .leave 0 :: own subscriber later else own subscriber later
  | .receive other :: later =>
    if other = subscriber then .receive 0 :: own subscriber later else own subscriber later

theorem reading_own (capacity subscriber : Nat) (commands : List (FeedCommand β)) :
    ∀ unread, reading capacity 0 unread (own subscriber commands) =
      reading capacity subscriber unread commands := by
  induction commands with
  | nil =>
      intro unread
      rfl
  | cons command later ih =>
      intro unread
      cases command with
      | publish item => simp [own, reading, leftBy, isReceiptOf, ih]
      | subscribe => simp [own, reading, leftBy, isReceiptOf, ih]
      | leave other =>
          by_cases mine : other = subscriber
          · simp [own, reading, leftBy, isReceiptOf, mine, ih]
          · simp [own, reading, leftBy, isReceiptOf, mine, ih]
      | receive other =>
          by_cases mine : other = subscriber
          · simp [own, reading, leftBy, isReceiptOf, mine, ih]
          · simp [own, reading, leftBy, isReceiptOf, mine, ih]

end FeedCommand

/-! ## What a feed keeps -/

namespace Feed

/-- A feed keeps the newest of the items that have gone through it, as many as it can; no subscriber
has read farther than to the newest. -/
structure Holds (f : Feed β) (history : List β) : Prop where
  room : 0 < f.capacity
  kept : f.kept = history.drop f.lost
  lost : f.lost ≤ history.length
  within : f.kept.length ≤ f.capacity
  full : f.lost ≠ 0 → f.kept.length = f.capacity
  marks : ∀ mark, some mark ∈ f.marks → mark ≤ history.length

variable {f : Feed β} {history : List β}

theorem Holds.published (holds : f.Holds history) : f.published = history.length := by
  have lost := holds.lost
  rw [Feed.published, holds.kept, List.length_drop]
  omega

theorem Holds.create (capacity : Nat) : (ofCapacity capacity : Feed β).Holds [] := by
  refine ⟨?_, rfl, Nat.le_refl _, Nat.zero_le _, fun lost => absurd rfl lost, nofun⟩
  change 0 < powerOfTwoFrom capacity
  unfold powerOfTwoFrom
  split
  · exact Nat.one_pos
  · exact Nat.pow_pos Nat.two_pos

theorem Holds.subscribe (holds : f.Holds history) : f.subscribe.Holds history := by
  refine { holds with marks := ?_ }
  intro mark member
  rcases List.mem_append.1 member with old | new
  · exact holds.marks mark old
  · simp only [List.mem_singleton, Option.some.injEq] at new
    rw [new, holds.published]

theorem Holds.remark {subscriber : Nat} {mark? : Option Nat} (holds : f.Holds history)
    (least : ∀ mark, mark? = some mark → mark ≤ history.length) :
    { f with marks := f.marks.set subscriber mark? }.Holds history := by
  refine { holds with marks := ?_ }
  intro mark member
  rcases List.mem_or_eq_of_mem_set member with old | new
  · exact holds.marks mark old
  · exact least mark new.symm

theorem publish_of_idle (idle : f.subscribers = 0) (item : β) : f.publish item = f := if_pos idle

theorem marks_publish (item : β) : (f.publish item).marks = f.marks := by
  unfold publish
  split
  · rfl
  · split <;> rfl

theorem Holds.publish (holds : f.Holds history) (busy : f.subscribers ≠ 0) (item : β) :
    (f.publish item).Holds (history ++ [item]) := by
  have lost := holds.lost
  have length := congrArg List.length holds.kept
  rw [List.length_drop] at length
  have longer : ∀ mark, some mark ∈ f.marks → mark ≤ (history ++ [item]).length := by
    intro mark member
    have := holds.marks mark member
    simp only [List.length_append, List.length_singleton]
    omega
  unfold Feed.publish
  rw [if_neg busy]
  by_cases roomy : f.kept.length < f.capacity
  · rw [if_pos roomy]
    refine ⟨holds.room, ?_, ?_, ?_, ?_, longer⟩
    · rw [List.drop_append_of_le_length lost, ← holds.kept]
    · simp only [List.length_append]
      omega
    · simp only [List.length_append, List.length_singleton]
      omega
    · intro some
      have := holds.full some
      omega
  · rw [if_neg roomy]
    have capacity := holds.within
    have room := holds.room
    refine ⟨holds.room, ?_, ?_, ?_, ?_, longer⟩
    · have next : f.lost + 1 ≤ history.length := by omega
      rw [List.drop_append_of_le_length next, holds.kept, List.drop_drop]
    · simp only [List.length_append, List.length_singleton]
      omega
    · simp only [List.length_append, List.length_drop, List.length_singleton]
      omega
    · intro _
      simp only [List.length_append, List.length_drop, List.length_singleton]
      omega

/-- What is not yet lost to a subscriber is kept at its place. -/
theorem Holds.kept_at (holds : f.Holds history) {mark : Nat}
    (near : ¬ f.capacity < history.length - mark) (read : mark ≤ history.length) :
    f.kept[mark - f.lost]? = (history.drop mark).head? := by
  have length := congrArg List.length holds.kept
  have lost := holds.lost
  have place : f.lost + (mark - f.lost) = mark := by
    by_cases some : f.lost = 0
    · omega
    · have full := holds.full some
      rw [List.length_drop] at length
      omega
  rw [holds.kept, List.getElem?_drop, place, List.head?_drop]

theorem receive_at {subscriber mark : Nat} (holds : f.Holds history)
    (here : f.marks[subscriber]? = some (some mark)) :
    ∃ next, next ≤ history.length ∧
      history.drop next = Delivery.rest f.capacity (history.drop mark) ∧
      f.receive subscriber = (Delivery.next? f.capacity (history.drop mark),
        { f with marks := f.marks.set subscriber (some next) }) := by
  have read := holds.marks mark (List.mem_of_getElem? here)
  unfold receive Delivery.rest Delivery.next?
  simp only [here, holds.published, List.length_drop]
  by_cases behind : f.capacity < history.length - mark
  · refine ⟨history.length - f.capacity, Nat.sub_le _ _, ?_, ?_⟩
    · rw [if_pos behind, List.drop_drop]
      congr 1
      omega
    · rw [if_pos behind, if_pos behind]
  · simp only [if_neg behind, holds.kept_at behind read]
    cases unread : history.drop mark with
    | nil =>
        have same : f.marks.set subscriber (some mark) = f.marks := by
          apply List.ext_getElem?
          intro place
          rw [List.getElem?_set]
          split
          · rename_i at?
            subst at?
            rw [here]
            have inside := (List.getElem?_eq_some_iff.1 here).1
            simp [inside]
          · rfl
        exact ⟨mark, read, by rw [unread]; rfl, by rw [same]; rfl⟩
    | cons item others =>
        refine ⟨mark + 1, ?_, ?_, rfl⟩
        · have some := congrArg List.length unread
          simp only [List.length_drop, List.length_cons] at some
          omega
        · rw [← List.drop_drop, unread]
          rfl

theorem receive_of_absent {subscriber : Nat}
    (absent : ∀ mark, f.marks[subscriber]? ≠ some (some mark)) :
    f.receive subscriber = (none, f) := by
  unfold receive
  split
  · rename_i mark here
    exact absurd here (absent mark)
  · rfl

/-- The items that have gone through a feed after a command. -/
def passed (f : Feed β) (history : List β) : FeedCommand β → List β
  | .publish item => if f.subscribers = 0 then history else history ++ [item]
  | _ => history

theorem Holds.perform (holds : f.Holds history) (command : FeedCommand β) :
    (f.perform command).2.Holds (f.passed history command) := by
  cases command with
  | publish item =>
      by_cases idle : f.subscribers = 0
      · simpa [Feed.perform, passed, idle, publish_of_idle] using holds
      · simpa [Feed.perform, passed, idle] using holds.publish idle item
  | subscribe => exact holds.subscribe
  | leave subscriber => exact holds.remark nofun
  | receive subscriber =>
      by_cases present : ∃ mark, f.marks[subscriber]? = some (some mark)
      · obtain ⟨mark, here⟩ := present
        obtain ⟨next, read, _, received⟩ := receive_at holds here
        rw [Feed.perform, received]
        refine holds.remark ?_
        intro mark same
        cases same
        exact read
      · rw [Feed.perform, receive_of_absent (not_exists.1 present)]
        exact holds

theorem capacity_perform (f : Feed β) (command : FeedCommand β) :
    (f.perform command).2.capacity = f.capacity := by
  cases command with
  | publish item =>
      simp only [perform, publish]
      split
      · rfl
      · split <;> rfl
  | subscribe | leave => rfl
  | receive subscriber =>
      simp only [perform, receive]
      split
      · split
        · rfl
        · split <;> rfl
      · rfl

/-! ## What waits for a subscriber -/

/-- The items that a feed has in store for a subscriber; `none` if it has left. -/
def Waits (f : Feed β) (history : List β) (subscriber : Nat) (unread : Option (List β)) : Prop :=
  ∃ mark?, f.marks[subscriber]? = some mark? ∧ unread = mark?.map fun mark => history.drop mark

variable {subscriber : Nat} {unread : Option (List β)}

theorem Waits.publish (holds : f.Holds history) (waits : f.Waits history subscriber unread)
    (item : β) :
    (f.publish item).Waits (f.passed history (.publish item)) subscriber (unread.map (· ++ [item])) := by
  obtain ⟨mark?, here, rfl⟩ := waits
  refine ⟨mark?, by rw [marks_publish, here], ?_⟩
  cases mark? with
  | none => rfl
  | some mark =>
      have busy : f.subscribers ≠ 0 := by
        have listed : some mark ∈ f.marks.filter (·.isSome) :=
          List.mem_filter.2 ⟨List.mem_of_getElem? here, rfl⟩
        exact Nat.ne_of_gt (List.length_pos_of_mem listed)
      have read := holds.marks mark (List.mem_of_getElem? here)
      simp [passed, busy, List.drop_append_of_le_length read]

theorem Waits.remark {other : Nat} {mark? : Option Nat} (waits : f.Waits history subscriber unread)
    (apart : other ≠ subscriber) :
    { f with marks := f.marks.set other mark? }.Waits history subscriber unread := by
  obtain ⟨own, here, same⟩ := waits
  refine ⟨own, ?_, same⟩
  rw [List.getElem?_set_ne apart, here]

theorem Waits.receive (holds : f.Holds history) (waits : f.Waits history subscriber unread) :
    (f.receive subscriber).1 = unread.bind (Delivery.next? f.capacity) ∧
      (f.receive subscriber).2.Waits history subscriber (unread.map (Delivery.rest f.capacity)) := by
  obtain ⟨mark?, here, rfl⟩ := waits
  cases mark? with
  | none =>
      have absent : ∀ mark, f.marks[subscriber]? ≠ some (some mark) := by
        intro mark present
        rw [here] at present
        cases present
      rw [receive_of_absent absent]
      exact ⟨rfl, none, here, rfl⟩
  | some mark =>
      obtain ⟨next, _, left, received⟩ := receive_at holds here
      rw [received]
      refine ⟨rfl, some next, ?_, by simp [left]⟩
      have inside := (List.getElem?_eq_some_iff.1 here).1
      simp [inside]

/-! ## Runs -/

theorem Waits.perform (holds : f.Holds history) (waits : f.Waits history subscriber unread)
    (command : FeedCommand β) :
    (f.perform command).2.Waits (f.passed history command) subscriber
      (command.leftBy f.capacity subscriber unread) := by
  cases command with
  | publish item => exact waits.publish holds item
  | subscribe =>
      obtain ⟨mark?, here, same⟩ := waits
      have inside := (List.getElem?_eq_some_iff.1 here).1
      refine ⟨mark?, ?_, same⟩
      rw [Feed.perform, subscribe, List.getElem?_append_left inside, here]
  | leave other =>
      by_cases own : other = subscriber
      · subst own
        obtain ⟨mark?, here, same⟩ := waits
        have inside := (List.getElem?_eq_some_iff.1 here).1
        exact ⟨none, by simp [Feed.perform, leave, inside], by simp [FeedCommand.leftBy]⟩
      · rw [FeedCommand.leftBy, if_neg own]
        exact waits.remark own
  | receive other =>
      by_cases own : other = subscriber
      · subst own
        rw [FeedCommand.leftBy, if_pos rfl]
        exact (waits.receive holds).2
      · rw [FeedCommand.leftBy, if_neg own]
        by_cases present : ∃ mark, f.marks[other]? = some (some mark)
        · obtain ⟨mark, there⟩ := present
          obtain ⟨next, _, _, received⟩ := receive_at holds there
          rw [Feed.perform, received]
          exact waits.remark own
        · rw [Feed.perform, receive_of_absent (not_exists.1 present)]
          exact waits

/-- What a subscriber is answered follows from what waits for it, whatever the others do. -/
theorem answers_eq_reading (commands : List (FeedCommand β)) :
    ∀ {f : Feed β} {history : List β} {unread : Option (List β)}, f.Holds history →
      f.Waits history subscriber unread →
      f.answers subscriber commands = FeedCommand.reading f.capacity subscriber unread commands := by
  induction commands with
  | nil =>
      intro f history unread _ _
      rfl
  | cons command later ih =>
      intro f history unread holds waits
      have answered := ih (holds.perform command) (waits.perform holds command)
      rw [capacity_perform] at answered
      rw [answers, FeedCommand.reading, answered]
      by_cases receipt : command.isReceiptOf subscriber
      · cases command with
        | receive other =>
            have own : other = subscriber := by simpa [FeedCommand.isReceiptOf] using receipt
            subst own
            simp only [receipt, if_true, ← (waits.receive holds).1, perform]
        | publish | subscribe | leave => simp [FeedCommand.isReceiptOf] at receipt
      · simp only [receipt, Bool.false_eq_true, if_false]

/-- What waits for a subscriber at the end of a run. -/
theorem Waits.performAll (commands : List (FeedCommand β)) :
    ∀ {f : Feed β} {history : List β} {unread : Option (List β)}, f.Holds history →
      f.Waits history subscriber unread →
      ∃ later, (f.performAll commands).Holds later ∧
        (f.performAll commands).Waits later subscriber
          (commands.foldl (FeedCommand.leftBy f.capacity subscriber) unread) := by
  induction commands with
  | nil =>
      intro f history unread holds waits
      exact ⟨history, holds, waits⟩
  | cons command later ih =>
      intro f history unread holds waits
      have followed := ih (holds.perform command) (waits.perform holds command)
      rw [capacity_perform] at followed
      exact followed

theorem length_marks_receive (f : Feed β) (subscriber : Nat) :
    (f.receive subscriber).2.marks.length = f.marks.length := by
  unfold receive
  split
  · split
    · exact List.length_set
    · split
      · exact List.length_set
      · rfl
  · rfl

/-- Everyone who has come has a place of its own. -/
theorem length_marks_performAll (commands : List (FeedCommand β)) :
    ∀ f : Feed β, (f.performAll commands).marks.length =
      f.marks.length + FeedCommand.subscriptions commands := by
  induction commands with
  | nil =>
      intro f
      rfl
  | cons command later ih =>
      intro f
      rw [performAll, ih, FeedCommand.subscriptions, FeedCommand.subscriptions, List.countP_cons]
      cases command with
      | publish item => simp [perform, marks_publish]
      | subscribe =>
          simp only [perform, subscribe, List.length_append, List.length_singleton]
          simp
          omega
      | leave subscriber => simp [perform, leave]
      | receive subscriber =>
          simp [perform, length_marks_receive]

theorem Holds.performAll (commands : List (FeedCommand β)) :
    ∀ {f : Feed β} {history : List β}, f.Holds history →
      ∃ later, (f.performAll commands).Holds later := by
  induction commands with
  | nil =>
      intro f history holds
      exact ⟨history, holds⟩
  | cons command later ih =>
      intro f history holds
      exact ih (holds.perform command)

theorem capacity_performAll (commands : List (FeedCommand β)) :
    ∀ f : Feed β, (f.performAll commands).capacity = f.capacity := by
  induction commands with
  | nil =>
      intro f
      rfl
  | cons command later ih =>
      intro f
      rw [performAll, ih, capacity_perform]

theorem powerOfTwoFrom_isLeast (capacity : Nat) :
    IsLeast {size | max capacity 1 ≤ size ∧ ∃ k, size = 2 ^ k} (powerOfTwoFrom capacity) := by
  unfold powerOfTwoFrom
  by_cases small : capacity ≤ 1
  · rw [if_pos small]
    refine ⟨⟨max_le small (Nat.le_refl 1), 0, rfl⟩, ?_⟩
    rintro size ⟨enough, _⟩
    exact (le_max_right capacity 1).trans enough
  · rw [if_neg small]
    have short : capacity - 1 < 2 ^ ((capacity - 1).log2 + 1) := Nat.lt_log2_self
    refine ⟨⟨max_le (by simpa using by omega) Nat.one_le_two_pow, _, rfl⟩, ?_⟩
    rintro size ⟨enough, k, rfl⟩
    have inside : capacity - 1 < 2 ^ k := by
      have := (le_max_left capacity 1).trans enough
      omega
    apply Nat.pow_le_pow_right Nat.two_pos
    exact (Nat.log2_lt (by omega)).2 inside

/-- Nothing waits for a newcomer. -/
theorem waits_of_subscribe (holds : f.Holds history) :
    f.subscribe.Waits history f.marks.length (some []) := by
  refine ⟨some f.published, ?_, ?_⟩
  · simp [Feed.subscribe]
  · simp [holds.published]

/-- A newcomer is the next in number, and nothing waits for it, whatever was done before it came. -/
theorem exists_newcomer (capacity : Nat) (before : List (FeedCommand β)) :
    ∃ history, ((ofCapacity capacity).performAll before).subscribe.Holds history ∧
      ((ofCapacity capacity).performAll before).subscribe.Waits history
        (FeedCommand.subscriptions before) (some []) := by
  obtain ⟨history, holds⟩ := (Holds.create capacity).performAll before
  have place : ((ofCapacity capacity : Feed β).performAll before).marks.length =
      FeedCommand.subscriptions before := by
    rw [length_marks_performAll]
    exact Nat.zero_add _
  refine ⟨history, holds.subscribe, ?_⟩
  rw [← place]
  exact waits_of_subscribe holds

/-- What has been sent since is read out but for what is left, and the next answer is about that. -/
theorem Waits.readsOut (holds : f.Holds history) (waits : f.Waits history subscriber (some []))
    (commands : List (FeedCommand β)) :
    ∃ left,
      Delivery.ReadsOut ((f.answers subscriber commands).filterMap id)
        (FeedCommand.sentTo subscriber commands) left ∧
      (.leave subscriber ∉ commands → ((f.performAll commands).receive subscriber).1 =
        Delivery.next? f.capacity left) ∧
      (.leave subscriber ∈ commands → ((f.performAll commands).receive subscriber).1 = none) := by
  obtain ⟨left, read, stays, leaves⟩ :=
    FeedCommand.reading_readsOut f.capacity subscriber commands []
  obtain ⟨later, holdsThen, waitsThen⟩ := waits.performAll commands holds
  have answer := (waitsThen.receive holdsThen).1
  rw [capacity_performAll] at answer
  refine ⟨left, ?_, ?_, ?_⟩
  · rw [answers_eq_reading commands holds waits]
    exact read
  · intro stayed
    rw [answer, stays stayed]
    rfl
  · intro gone
    rw [answer, leaves gone]
    rfl

/-- Whenever a subscriber comes to a feed and whatever anybody does then, its answers read out exactly
what is published while it stays, and are those that it would get alone.  The feed keeps as many items
as the least power of two that will do, and a loss is reported only of what it cannot keep. -/
theorem subscribers_miss_nothing (capacity : Nat) (before after : List (FeedCommand β)) :
    let feed := (ofCapacity capacity : Feed β).performAll before
    let subscriber := FeedCommand.subscriptions before
    IsLeast {size | max capacity 1 ≤ size ∧ ∃ k, size = 2 ^ k} feed.capacity ∧
      (∃ left,
        Delivery.ReadsOut ((feed.subscribe.answers subscriber after).filterMap id)
          (FeedCommand.sentTo subscriber after) left ∧
        (.leave subscriber ∉ after → ((feed.subscribe.performAll after).receive subscriber).1 =
          if feed.capacity < left.length then some (.lagged (left.length - feed.capacity))
          else left.head?.map .item) ∧
        (.leave subscriber ∈ after →
          ((feed.subscribe.performAll after).receive subscriber).1 = none)) ∧
      feed.subscribe.answers subscriber after =
        (ofCapacity capacity).subscribe.answers 0 (FeedCommand.own subscriber after) ∧
      (feed.subscribers = 0 → ∀ item, feed.publish item = feed) := by
  intro feed subscriber
  have size : feed.capacity = powerOfTwoFrom capacity := capacity_performAll before _
  obtain ⟨history, holds, waits⟩ := exists_newcomer capacity before
  refine ⟨?_, waits.readsOut holds after, ?_, ?_⟩
  · rw [size]
    exact powerOfTwoFrom_isLeast capacity
  · have created : (ofCapacity capacity : Feed β).Holds [] := Holds.create capacity
    have alone := answers_eq_reading (FeedCommand.own subscriber after) created.subscribe
      (waits_of_subscribe created)
    have together := answers_eq_reading after holds waits
    rw [together, ← FeedCommand.reading_own]
    change FeedCommand.reading feed.capacity 0 _ _ = _
    rw [size]
    exact alone.symm
  · intro idle item
    exact publish_of_idle idle item

/-- Somebody comes when two items are through, falls behind and loses two, and somebody else leaves. -/
def crowdedFeed : List (FeedCommand Nat) × List (FeedCommand Nat) :=
  ([.subscribe, .publish 1, .publish 2],
    [.publish 3, .receive 0, .receive 1, .receive 1, .publish 4, .publish 5, .publish 6, .leave 0,
      .publish 7, .publish 8, .publish 9, .receive 1, .receive 0, .receive 1, .publish 10])

theorem crowdedFeed_accounted :
    ((ofCapacity 3).performAll crowdedFeed.1).subscribe.answers 1 crowdedFeed.2 =
        [some (.item 3), none, some (.lagged 2), some (.item 6)] ∧
      ∃ left, Delivery.ReadsOut [.item 3, .lagged 2, .item 6] [3, 4, 5, 6, 7, 8, 9, 10] left :=
  have ⟨_, ⟨left, read, _⟩, _⟩ := subscribers_miss_nothing 3 crowdedFeed.1 crowdedFeed.2
  ⟨rfl, left, read⟩

end Feed

end Sightline
