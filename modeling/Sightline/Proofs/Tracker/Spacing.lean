import Sightline.Proofs.Tracker.Pairs
import Sightline.Proofs.Tracker.Spawning

/-!
# Targets that stay where they were set

A bystander who notes of each live target where it was set and what has moved it since can tell those
that nothing has moved.  No camera stands too near to any of these, and no two of them are too near to
each other: the newer one was clear of the older one when it was set, and neither has moved.
-/

set_option autoImplicit false

namespace Sightline

variable {α : Type} [Scalar α]

/-! ## Lists side by side -/

section Lists

variable {β γ : Type}

theorem zip_modify (xs : List β) (ys : List γ) (index : Nat) (f : β → β) (g : γ → γ) :
    (xs.modify index f).zip (ys.modify index g) = (xs.zip ys).modify index (Prod.map f g) := by
  induction xs generalizing ys index with
  | nil => simp
  | cons x rest ih =>
      cases ys with
      | nil => simp
      | cons y others =>
          cases index with
          | zero => rfl
          | succ index => simp [ih]

theorem zip_eraseIdx (xs : List β) (ys : List γ) (index : Nat) :
    (xs.eraseIdx index).zip (ys.eraseIdx index) = (xs.zip ys).eraseIdx index := by
  induction xs generalizing ys index with
  | nil => simp
  | cons x rest ih =>
      cases ys with
      | nil => simp
      | cons y others =>
          cases index with
          | zero => rfl
          | succ index => simp [ih]

theorem map_fst_filter_zip {xs : List β} {ys : List γ} (length : ys.length = xs.length)
    (keep : β → Bool) :
    ((xs.zip ys).filter fun entry => keep entry.1).map Prod.fst = xs.filter keep := by
  have all : (xs.zip ys).map Prod.fst = xs := List.map_fst_zip length.ge
  conv_rhs => rw [← all, List.filter_map]
  rfl

/-- What is kept of one list keeps its companions. -/
theorem zip_filter {xs : List β} {ys : List γ} (length : ys.length = xs.length) (keep : β → Bool) :
    (xs.filter keep).zip (((xs.zip ys).filter fun entry => keep entry.1).map Prod.snd) =
      (xs.zip ys).filter fun entry => keep entry.1 := by
  rw [← map_fst_filter_zip length keep]
  exact (List.zip_of_prod rfl rfl).symm

/-- A change after which nothing is asked of an item any more leaves all other pairs as they were. -/
theorem pairwise_modify {related : β → β → Prop} {list : List β} (pairs : list.Pairwise related)
    (index : Nat) (change : β → β) (older : ∀ x y, related (change x) y)
    (newer : ∀ x y, related x (change y)) : (list.modify index change).Pairwise related := by
  induction list generalizing index with
  | nil => simp
  | cons x rest ih =>
      obtain ⟨ofFirst, ofRest⟩ := List.pairwise_cons.1 pairs
      cases index with
      | zero => exact List.pairwise_cons.2 ⟨fun y _ => older x y, ofRest⟩
      | succ index =>
          refine List.pairwise_cons.2 ⟨fun y member => ?_, ih ofRest index⟩
          rcases Tracker.mem_modify member with same | ⟨before, _, rfl⟩
          · exact ofFirst y same
          · exact newer x before

end Lists

theorem TrackerPlan.tooNear_comm [SymmetricScalar α] (plan : TrackerPlan α) (p q : Point α) :
    plan.TooNear p q ↔ plan.TooNear q p := by
  rw [TooNear, TooNear, Point.norm_sub_comm]

/-! ## The past of a target -/

/-- Where a target was set, and what has moved it since. -/
structure Past (α : Type) where
  origin : Point α
  nudged : Bool
  survivor : Bool
deriving Repr

namespace Past

def begin (candidate : Point α) : Past α := ⟨candidate, false, false⟩

def claim (past : Past α) : Past α := { past with nudged := true }

def survive (past : Past α) : Past α := { past with survivor := true }

/-- Since it was set the target has neither claimed a ray nor survived a merge. -/
def Unmoved (past : Past α) : Prop := past.nudged = false ∧ past.survivor = false

instance (past : Past α) : Decidable past.Unmoved := inferInstanceAs (Decidable (_ ∧ _))

omit [Scalar α] in
theorem not_unmoved_claim (past : Past α) : ¬ past.claim.Unmoved := fun unmoved => by
  cases unmoved.1

omit [Scalar α] in
theorem not_unmoved_survive (past : Past α) : ¬ past.survive.Unmoved := fun unmoved => by
  cases unmoved.2

end Past

namespace Lookout

variable {plan : TrackerPlan α} {l after : Lookout α} {pasts : List (Past α)}

/-- What a bystander notes of the live targets, in their order, while a command is carried out. -/
def recollect (plan : TrackerPlan α) (l : Lookout α) (pasts : List (Past α)) :
    TrackerCommand α → List (Past α)
  | .offer ray =>
    match l.claimant? ray with
    | some place => pasts.modify place .claim
    | none => pasts
  | .spawn candidate =>
    match l.tracker.spawn plan l.now candidate with
    | .ok (.spawned _, _) => pasts ++ [.begin candidate]
    | _ => pasts
  | .merge =>
    match Tracker.overlappingPair? l.tracker.targets plan.mergeSlack with
    | some (first, second) => (pasts.modify first.2 .survive).eraseIdx second.2
    | none => pasts
  | .expire =>
    ((l.tracker.targets.zip pasts).filter fun entry => !entry.1.isStale l.now).map Prod.snd
  | .advance _ => pasts

def recollectAll (plan : TrackerPlan α) (l : Lookout α) (pasts : List (Past α)) :
    List (TrackerCommand α) → List (Past α)
  | [] => pasts
  | command :: later =>
    match l.perform plan command with
    | .ok (_, next) => next.recollectAll plan (l.recollect plan pasts command) later
    | .error _ => pasts

/-! ## What holds of the targets that nothing has moved -/

/-- A target that nothing has moved stands where it was set, clear of the cameras. -/
def Still (plan : TrackerPlan α) (entry : Tracked α × Past α) : Prop :=
  entry.2.Unmoved → entry.1.position = entry.2.origin ∧ ¬ plan.UnderCamera entry.1.position

def ClearOf (plan : TrackerPlan α) (older newer : Tracked α × Past α) : Prop :=
  older.2.Unmoved → newer.2.Unmoved → ¬ plan.TooNear newer.1.position older.1.position

structure Spaced (plan : TrackerPlan α) (entries : List (Tracked α × Past α)) : Prop where
  still : ∀ entry ∈ entries, Still plan entry
  clear : entries.Pairwise (ClearOf plan)

namespace Spaced

variable {entries kept : List (Tracked α × Past α)}

theorem of_sublist (spaced : Spaced plan entries) (part : kept.Sublist entries) :
    Spaced plan kept :=
  ⟨fun entry member => spaced.still entry (part.subset member), spaced.clear.sublist part⟩

/-- Of a target that has been moved nothing is asked. -/
theorem modify (spaced : Spaced plan entries) (index : Nat)
    (change : Tracked α × Past α → Tracked α × Past α)
    (moved : ∀ entry, ¬ (change entry).2.Unmoved) : Spaced plan (entries.modify index change) := by
  refine ⟨fun entry member unmoved => ?_, ?_⟩
  · rcases Tracker.mem_modify member with same | ⟨before, _, rfl⟩
    · exact spaced.still entry same unmoved
    · exact absurd unmoved (moved before)
  · exact pairwise_modify spaced.clear index change
      (fun entry _ unmoved => absurd unmoved (moved entry))
      (fun _ entry _ unmoved => absurd unmoved (moved entry))

theorem concat (spaced : Spaced plan entries) {target : Tracked α} {candidate : Point α}
    (here : target.position = candidate) (notUnder : ¬ plan.UnderCamera candidate)
    (clear : ∀ entry ∈ entries, ¬ plan.TooNear candidate entry.1.position) :
    Spaced plan (entries ++ [(target, .begin candidate)]) := by
  refine ⟨fun entry member => ?_,
    List.pairwise_append.2 ⟨spaced.clear, List.pairwise_singleton _ _, ?_⟩⟩
  · rcases List.mem_append.1 member with old | new
    · exact spaced.still entry old
    · rw [List.mem_singleton.1 new]
      exact fun _ => ⟨here, here ▸ notUnder⟩
  · intro older member newer new _ _
    rw [List.mem_singleton.1 new, here]
    exact clear older member

end Spaced

/-- The pasts are those of the live targets, in their order. -/
structure Recollects (plan : TrackerPlan α) (l : Lookout α) (pasts : List (Past α)) : Prop where
  uniform : l.tracker.Uniform plan
  length : pasts.length = l.tracker.targets.length
  spaced : Spaced plan (l.tracker.targets.zip pasts)

theorem recollects_start (plan : TrackerPlan α) : Recollects plan start [] :=
  ⟨Tracker.uniform_empty plan, rfl, ⟨fun _ member => (by cases member), .nil⟩⟩

/-! ## One command -/

theorem Recollects.recollect {command : TrackerCommand α} (recollects : Recollects plan l pasts)
    (turn : l.Turn plan command after) : Recollects plan after (l.recollect plan pasts command) := by
  have uniform := turn.uniform recollects.uniform
  cases turn with
  | missed unclaimed =>
      rw [Lookout.recollect, unclaimed]
      exact recollects
  | claimed claim best claimant =>
      rw [Lookout.recollect, claimant]
      refine ⟨uniform, ?_, ?_⟩
      · simp [Tracker.withNudge, recollects.length]
      · rw [Tracker.withNudge, zip_modify]
        exact recollects.spaced.modify _ _ fun entry => entry.2.not_unmoved_claim
  | faulty refused =>
      rw [Lookout.recollect, refused]
      exact recollects
  | @declined candidate verdict tried none =>
      rw [Lookout.recollect, tried]
      cases verdict with
      | underCamera | onTarget => exact recollects
      | spawned id => cases none
  | @set candidate spawned =>
      rw [Lookout.recollect, spawned]
      have verdict := recollects.uniform.spawn_eq l.now (Tracker.isFinite_of_spawn spawned)
      rw [spawned] at verdict
      have notUnder : ¬ plan.UnderCamera candidate := by
        intro under
        rw [if_pos under] at verdict
        cases verdict
      have notOn : ¬ l.tracker.OnTarget plan candidate := by
        intro on
        rw [if_neg notUnder, if_pos on] at verdict
        cases verdict
      refine ⟨uniform, ?_, ?_⟩
      · simp [Tracker.withTarget, recollects.length]
      · rw [Tracker.withTarget, List.zip_append recollects.length.symm]
        exact recollects.spaced.concat rfl notUnder fun entry member near =>
          notOn ⟨entry.1, (List.of_mem_zip member).1, near⟩
  | apart none =>
      rw [Lookout.recollect, none]
      exact recollects
  | @merged first second position found =>
      rw [Lookout.recollect, found]
      refine ⟨uniform, ?_, ?_⟩
      · simp [Tracker.withMerge, List.length_eraseIdx, recollects.length]
      · rw [Tracker.withMerge, zip_eraseIdx, zip_modify]
        have moved := recollects.spaced.modify first.2 (Prod.map (·.moveTo position) .survive)
          fun entry => entry.2.not_unmoved_survive
        exact moved.of_sublist (List.eraseIdx_sublist _ _)
  | expired =>
      have beside := zip_filter recollects.length fun target => !target.isStale l.now
      refine ⟨uniform, ?_, ?_⟩
      · rw [Tracker.withoutStale, Lookout.recollect, List.length_map,
          ← map_fst_filter_zip recollects.length, List.length_map]
      · rw [Tracker.withoutStale, Lookout.recollect, beside]
        exact recollects.spaced.of_sublist List.filter_sublist
  | waited => exact ⟨uniform, recollects.length, recollects.spaced⟩

theorem Recollects.recollectAll {commands : List (TrackerCommand α)} {replies : List (TrackerReply α)}
    (recollects : Recollects plan l pasts)
    (done : l.performAll plan commands = .ok (replies, after)) :
    Recollects plan after (l.recollectAll plan pasts commands) := by
  induction commands generalizing l pasts replies with
  | nil =>
      cases done
      exact recollects
  | cons command rest ih =>
      obtain ⟨reply, next, others, one, later, rfl⟩ := performAll_cons_eq_ok.1 done
      rw [Lookout.recollectAll, one]
      exact ih (recollects.recollect (perform_turn one)) later

/-! ## What the pasts say -/

/-- Two different targets that nothing has moved are not too near to each other, and no camera is too
near to either. -/
structure Separated (plan : TrackerPlan α) (l : Lookout α) (pasts : List (Past α)) : Prop where
  length : pasts.length = l.tracker.targets.length
  cameras : ∀ (i : Nat) (target : Tracked α) (past : Past α), l.tracker.targets[i]? = some target →
    pasts[i]? = some past → past.Unmoved → target.position = past.origin ∧
      ∀ camera ∈ plan.cameras, ¬ plan.TooNear target.position camera
  targets : ∀ (i j : Nat) (one other : Tracked α) (onePast otherPast : Past α), i ≠ j →
    l.tracker.targets[i]? = some one → pasts[i]? = some onePast → onePast.Unmoved →
      l.tracker.targets[j]? = some other → pasts[j]? = some otherPast → otherPast.Unmoved →
        ¬ plan.TooNear one.position other.position

theorem Recollects.apart (recollects : Recollects plan l pasts) {i j : Nat} {one other : Tracked α}
    {onePast otherPast : Past α} (earlier : i < j)
    (oneAt : (l.tracker.targets.zip pasts)[i]? = some (one, onePast))
    (otherAt : (l.tracker.targets.zip pasts)[j]? = some (other, otherPast)) :
    ClearOf plan (one, onePast) (other, otherPast) := by
  obtain ⟨oneBelow, oneIs⟩ := List.getElem?_eq_some_iff.1 oneAt
  obtain ⟨otherBelow, otherIs⟩ := List.getElem?_eq_some_iff.1 otherAt
  rw [← oneIs, ← otherIs]
  exact List.pairwise_iff_getElem.1 recollects.spaced.clear i j oneBelow otherBelow earlier

theorem Recollects.separated [SymmetricScalar α] (recollects : Recollects plan l pasts) :
    Separated plan l pasts := by
  refine ⟨recollects.length, fun i target past live noted unmoved => ?_, ?_⟩
  · have beside : (l.tracker.targets.zip pasts)[i]? = some (target, past) :=
      List.getElem?_zip_eq_some.2 ⟨live, noted⟩
    obtain ⟨same, notUnder⟩ := recollects.spaced.still _ (List.mem_of_getElem? beside) unmoved
    exact ⟨same, fun camera mounted near => notUnder ⟨camera, mounted, near⟩⟩
  · intro i j one other onePast otherPast distinct oneLive oneNoted oneStill otherLive otherNoted
      otherStill
    have oneAt : (l.tracker.targets.zip pasts)[i]? = some (one, onePast) :=
      List.getElem?_zip_eq_some.2 ⟨oneLive, oneNoted⟩
    have otherAt : (l.tracker.targets.zip pasts)[j]? = some (other, otherPast) :=
      List.getElem?_zip_eq_some.2 ⟨otherLive, otherNoted⟩
    -- the list has each pair in one order only
    rcases Nat.lt_or_gt_of_ne distinct with before | behind
    · rw [TrackerPlan.tooNear_comm]
      exact recollects.apart before oneAt otherAt oneStill otherStill
    · exact recollects.apart behind otherAt oneAt otherStill oneStill

end Lookout

end Sightline
