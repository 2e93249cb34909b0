import Sightline.Proofs.Plane.Chord
import Sightline.Proofs.Tracker.Pairs
import Sightline.Tracker.Command

/-!
# Overlaps across a merge

A merge takes two targets out of the overlaps among the targets and puts the survivor in.  The survivor
stands in the middle between the two, and the middle between two points is not as far from a third one
as the farther of them.  So it may reach a target that neither of them reached: a merge does not always
leave fewer overlaps than it found, although it always leaves fewer targets.
-/

set_option autoImplicit false

namespace Sightline

section Counting

variable {α : Type} [Scalar α]

/-- How many of the others a target overlaps. -/
def Tracked.touches (target : Tracked α) (slack : α) (others : List (Tracked α)) : Nat :=
  others.countP fun other => target.overlaps other.toTarget slack

namespace Tracker

/-- The number of unordered pairs that overlap: each target is held against those after it. -/
def overlapsAmong (slack : α) : List (Tracked α) → Nat
  | [] => 0
  | target :: later => target.touches slack later + overlapsAmong slack later

def overlapCount (t : Tracker α) (slack : α) : Nat := overlapsAmong slack t.targets

theorem overlapsAmong_perm [SymmetricScalar α] (slack : α) {targets others : List (Tracked α)}
    (perm : targets.Perm others) : overlapsAmong slack targets = overlapsAmong slack others := by
  induction perm with
  | nil => rfl
  | cons target perm ih =>
      rw [overlapsAmong, overlapsAmong, ih, Tracked.touches, perm.countP_eq]
      rfl
  | swap one other rest =>
      simp only [overlapsAmong, Tracked.touches, List.countP_cons, Target.overlaps_comm other.toTarget]
      omega
  | trans _ _ first second => exact first.trans second

theorem countP_or_le {β : Type} (p q : β → Bool) (list : List β) :
    list.countP (fun item => p item || q item) ≤ list.countP p + list.countP q := by
  induction list with
  | nil => exact Nat.zero_le _
  | cons item rest ih =>
      simp only [List.countP_cons]
      cases p item <;> cases q item <;> simp <;> omega

theorem touches_le {one other third : Tracked α} {slack : α} {targets : List (Tracked α)}
    (covered : ∀ target ∈ targets, third.overlaps target.toTarget slack = true →
      one.overlaps target.toTarget slack = true ∨ other.overlaps target.toTarget slack = true) :
    third.touches slack targets ≤ one.touches slack targets + other.touches slack targets := by
  refine (List.countP_mono_left fun target member meets => ?_).trans (countP_or_le _ _ targets)
  rw [Bool.or_eq_true]
  exact covered target member meets

variable {t after : Tracker α} {older newer : Tracked α} {before between behind : List (Tracked α)}

theorem Joins.perm (joins : t.Joins after older newer before between behind) :
    t.targets.Perm (older :: newer :: (before ++ (between ++ behind))) ∧
      after.targets.Perm ({ older with position := (older.position + newer.position).scale 0.5 } ::
        (before ++ (between ++ behind))) := by
  constructor
  · rw [joins.was]
    refine List.perm_middle.trans (List.Perm.cons older ?_)
    rw [← List.append_assoc, ← List.append_assoc]
    exact List.perm_middle
  · rw [joins.left]
    exact List.perm_middle

/-- A merge ends the overlaps of the two targets, their own among them, and starts those of the survivor. -/
theorem overlapCount_merge [SymmetricScalar α] {slack : α} {survivor : Tracked α}
    {others : List (Tracked α)} (was : t.targets.Perm (older :: newer :: others))
    (left : after.targets.Perm (survivor :: others))
    (overlap : older.overlaps newer.toTarget slack = true) :
    after.overlapCount slack + 1 + older.touches slack others + newer.touches slack others =
      t.overlapCount slack + survivor.touches slack others := by
  have pair : older.touches slack (newer :: others) = older.touches slack others + 1 :=
    List.countP_cons_of_pos overlap
  rw [overlapCount, overlapCount, overlapsAmong_perm slack was, overlapsAmong_perm slack left]
  simp only [overlapsAmong, pair]
  omega

end Tracker

end Counting

namespace Disc

theorem overlaps_iff (disc other : Disc ℝ) (slack : ℝ) :
    disc.overlaps other slack = true ↔
      disc.distance other.center < disc.radius + other.radius - slack :=
  decide_eq_true_iff

/-- The median of a triangle. -/
theorem distance_middle {one other middle : Disc ℝ}
    (halfway : middle.center = (one.center + other.center).scale 0.5) (p : Point ℝ) :
    4 * middle.distance p ^ 2 + one.distance other.center ^ 2 =
      2 * one.distance p ^ 2 + 2 * other.distance p ^ 2 := by
  have x : middle.center.x = (one.center.x + other.center.x) * 0.5 := congrArg Point.x halfway
  have y : middle.center.y = (one.center.y + other.center.y) * 0.5 := congrArg Point.y halfway
  rw [distance_sq, distance_sq, distance_sq, distance_sq, x, y]
  ring

/-- What the middle between two overlapping discs reaches, but neither of the two, it reaches only just. -/
theorem far_of_clear {one other middle third : Disc ℝ} {reach : ℝ}
    (halfway : middle.center = (one.center + other.center).scale 0.5)
    (near : one.distance other.center < reach)
    (clearOfOne : reach ≤ one.distance third.center)
    (clearOfOther : reach ≤ other.distance third.center) :
    3 * reach ^ 2 < 4 * middle.distance third.center ^ 2 := by
  have median := distance_middle halfway third.center
  have apart := one.distance_nonneg other.center
  have positive : 0 ≤ reach := apart.trans near.le
  have pair : one.distance other.center ^ 2 < reach ^ 2 := by gcongr
  have first : reach ^ 2 ≤ one.distance third.center ^ 2 := by gcongr
  have second : reach ^ 2 ≤ other.distance third.center ^ 2 := by gcongr
  linarith

end Disc

namespace Tracker

variable {plan : TrackerPlan ℝ} {t after : Tracker ℝ}

/-- A merge lowers the number of overlaps by that of the two targets and all they had with others, and
raises it by those of the survivor.  It lowers it on the whole unless the survivor comes to overlap a
target that was clear of both; where all radii are equal, such a target is farther from the survivor
than √3 / 2 of the distance at which overlaps begin. -/
theorem merge_trades_overlaps {merge : Merge ℝ} (merged : t.merge? plan = some (merge, after)) :
    ∃ (older newer survivor : Tracked ℝ) (others : List (Tracked ℝ)),
      t.targets.Perm (older :: newer :: others) ∧ after.targets.Perm (survivor :: others) ∧
        older.overlaps newer.toTarget plan.mergeSlack = true ∧
        survivor = { older with position := merge.position } ∧
        after.overlapCount plan.mergeSlack + 1 + older.touches plan.mergeSlack others +
            newer.touches plan.mergeSlack others =
          t.overlapCount plan.mergeSlack + survivor.touches plan.mergeSlack others ∧
        ((∀ other ∈ others, survivor.overlaps other.toTarget plan.mergeSlack = true →
            older.overlaps other.toTarget plan.mergeSlack = true ∨
              newer.overlaps other.toTarget plan.mergeSlack = true) →
          after.overlapCount plan.mergeSlack < t.overlapCount plan.mergeSlack) ∧
        ((∀ target ∈ t.targets, target.radius = plan.radius) →
          ∀ other ∈ others, older.overlaps other.toTarget plan.mergeSlack = false →
            newer.overlaps other.toTarget plan.mergeSlack = false →
              3 * (plan.radius + plan.radius - plan.mergeSlack) ^ 2 <
                4 * survivor.disc.distance other.position ^ 2) := by
  obtain ⟨older, newer, before, between, behind, joins, _, overlap, rfl⟩ := joins_of_merge? merged
  obtain ⟨was, left⟩ := joins.perm
  have balance := overlapCount_merge was left overlap
  refine ⟨older, newer, _, _, was, left, overlap, rfl, balance, fun covered => ?_, ?_⟩
  · have fewer := touches_le covered
    omega
  · intro equal other member clearOfOlder clearOfNewer
    have radius : ∀ target ∈ older :: newer :: (before ++ (between ++ behind)),
        target.disc.radius = plan.radius := fun target live => equal target (was.mem_iff.2 live)
    have near := (older.disc.overlaps_iff newer.disc plan.mergeSlack).1 overlap
    have first := mt (older.disc.overlaps_iff other.disc plan.mergeSlack).2
      (Bool.eq_false_iff.1 clearOfOlder)
    have second := mt (newer.disc.overlaps_iff other.disc plan.mergeSlack).2
      (Bool.eq_false_iff.1 clearOfNewer)
    rw [radius older (by simp), radius newer (by simp)] at near
    rw [radius older (by simp), radius other (by simp [member]), not_lt] at first
    rw [radius newer (by simp), radius other (by simp [member]), not_lt] at second
    have halfway : (Disc.mk ((older.position + newer.position).scale 0.5) older.radius).center =
        (older.disc.center + newer.disc.center).scale 0.5 := rfl
    have far := Disc.far_of_clear halfway near first second
    exact far

/-! ## A merge that gains an overlap

Two targets overlap, and two more stand off the middle between them, out of reach of both. -/

noncomputable def standing (x y : ℝ) (serial : UInt64) : Tracked ℝ :=
  ⟨⟨⟨x, y⟩, 0.6, .ofMillis 5000, .zero⟩, ⟨serial⟩⟩

noncomputable def crowdPlan : TrackerPlan ℝ := ⟨0.6, .ofMillis 5000, 0.2, 0.5, 1.0, []⟩

noncomputable def crowd : Tracker ℝ :=
  ⟨[standing 0 0 1, standing 0.5 0 2, standing 0.25 0.6875 3, standing 0.25 (-0.6875) 4], ⟨4⟩⟩

theorem standing_overlaps {x y x' y' slack : ℝ} {serial serial' : UInt64} (reaches : slack ≤ 1.2) :
    (standing x y serial).overlaps (standing x' y' serial').toTarget slack = true ↔
      (x' - x) ^ 2 + (y' - y) ^ 2 < (1.2 - slack) ^ 2 := by
  refine (Disc.overlaps_iff _ _ _).trans ?_
  have reach : (0.6 : ℝ) + 0.6 - slack = 1.2 - slack := by ring
  change Disc.distance ⟨⟨x, y⟩, 0.6⟩ ⟨x', y'⟩ < 0.6 + 0.6 - slack ↔ _
  rw [reach, ← sq_lt_sq₀ (Disc.distance_nonneg _ _) (by linarith), Disc.distance_sq]

theorem gathers_next {x y : ℝ} {later : List (TrackerCommand ℝ)} {last : Lookout ℝ}
    (clear : ∀ other ∈ t.targets,
      ¬ (standing x y (t.issuer.last + 1)).overlaps other.toTarget crowdPlan.spawnSlack = true)
    (rest : ∃ replies, Lookout.performAll crowdPlan
      ⟨⟨t.targets ++ [standing x y (t.issuer.last + 1)], ⟨t.issuer.last + 1⟩⟩, .zero⟩ later =
        .ok (replies, last)) :
    ∃ replies, Lookout.performAll crowdPlan ⟨t, .zero⟩ (.spawn ⟨x, y⟩ :: later) =
      .ok (replies, last) := by
  have spawned : t.spawn crowdPlan .zero ⟨x, y⟩ = _ :=
    spawn_of_clear (standing x y (t.issuer.last + 1)).toTarget rfl rfl
      (List.forall_mem_nil _) fun other live => Bool.eq_false_iff.2 (clear other live)
  obtain ⟨replies, ran⟩ := rest
  refine ⟨.spawned (.ok (.spawned ⟨t.issuer.last + 1⟩)) :: replies, ?_⟩
  rw [Lookout.performAll, Lookout.perform, spawned]
  exact bind_eq_ok.2 ⟨_, rfl, bind_eq_ok.2 ⟨_, ran, rfl⟩⟩

theorem crowd_gathers : ∃ replies, Lookout.start.performAll crowdPlan
      [.spawn ⟨0, 0⟩, .spawn ⟨0.5, 0⟩, .spawn ⟨0.25, 0.6875⟩, .spawn ⟨0.25, -0.6875⟩] =
    .ok (replies, ⟨crowd, .zero⟩) := by
  have reaches : crowdPlan.spawnSlack ≤ 1.2 := by norm_num [crowdPlan]
  refine gathers_next ?_ (gathers_next ?_ (gathers_next ?_ (gathers_next ?_ ⟨[], rfl⟩)))
  all_goals
    simp only [empty, List.nil_append, List.cons_append, List.forall_mem_cons, List.not_mem_nil,
      standing_overlaps reaches]
    norm_num [crowdPlan]

theorem crowd_joins : ∃ merge after, crowd.merge? crowdPlan = some (merge, after) ∧
    after.targets = [standing 0.25 0 1, standing 0.25 0.6875 3, standing 0.25 (-0.6875) 4] := by
  have overlap : (standing 0 0 1).overlaps (standing 0.5 0 2).toTarget crowdPlan.mergeSlack = true := by
    rw [standing_overlaps (by norm_num [crowdPlan])]
    norm_num [crowdPlan]
  have overlapping : crowd.Overlapping crowdPlan.mergeSlack 0 1 :=
    ⟨Nat.zero_ne_one, _, _, rfl, rfl, overlap⟩
  obtain ⟨merge, after, merged⟩ := exists_merge? ⟨0, 1, overlapping⟩
  obtain ⟨older, newer, before, between, behind, ⟨was, left, _⟩, pair, _, _⟩ := joins_of_merge? merged
  -- no pair is before the first two
  have least := pair.least 0 1 overlapping
  obtain rfl : before = [] := List.length_eq_zero_iff.1 (by omega)
  obtain rfl : between = [] := by simpa using least
  cases was
  refine ⟨merge, after, merged, ?_⟩
  rw [left]
  change [standing ((0 + 0.5) * 0.5) ((0 + 0) * 0.5) 1, standing 0.25 0.6875 3,
    standing 0.25 (-0.6875) 4] = _
  norm_num

theorem crowd_trades_overlaps : ∃ merge after, crowd.merge? crowdPlan = some (merge, after) ∧
    ∃ (older newer survivor : Tracked ℝ) (others : List (Tracked ℝ)),
      crowd.targets.Perm (older :: newer :: others) ∧ after.targets.Perm (survivor :: others) ∧
        after.overlapCount crowdPlan.mergeSlack + 1 + older.touches crowdPlan.mergeSlack others +
            newer.touches crowdPlan.mergeSlack others =
          crowd.overlapCount crowdPlan.mergeSlack + survivor.touches crowdPlan.mergeSlack others ∧
        ∀ other ∈ others, older.overlaps other.toTarget crowdPlan.mergeSlack = false →
          newer.overlaps other.toTarget crowdPlan.mergeSlack = false →
            3 * (0.6 + 0.6 - 0.5) ^ 2 < 4 * survivor.disc.distance other.position ^ 2 := by
  obtain ⟨merge, after, merged, _⟩ := crowd_joins
  obtain ⟨older, newer, survivor, others, was, left, _, _, balance, _, far⟩ := merge_trades_overlaps merged
  have equal : ∀ target ∈ crowd.targets, target.radius = crowdPlan.radius := by
    simp [crowd, standing, crowdPlan]
  exact ⟨merge, after, merged, older, newer, survivor, others, was, left, balance, far equal⟩

/-- A merge with more overlaps after it than before it, among targets that were set one by one. -/
theorem crowd_gains_overlap :
    (∃ replies, Lookout.start.performAll crowdPlan
        [.spawn ⟨0, 0⟩, .spawn ⟨0.5, 0⟩, .spawn ⟨0.25, 0.6875⟩, .spawn ⟨0.25, -0.6875⟩] =
      .ok (replies, ⟨crowd, .zero⟩)) ∧
      ∃ merge after, crowd.merge? crowdPlan = some (merge, after) ∧
        crowd.overlapCount crowdPlan.mergeSlack = 1 ∧ after.overlapCount crowdPlan.mergeSlack = 2 := by
  have reaches : crowdPlan.mergeSlack ≤ 1.2 := by norm_num [crowdPlan]
  obtain ⟨merge, after, merged, left⟩ := crowd_joins
  refine ⟨crowd_gathers, merge, after, merged, ?_, ?_⟩
  · simp only [overlapCount, crowd, overlapsAmong, Tracked.touches, List.countP_cons, List.countP_nil,
      standing_overlaps reaches]
    norm_num [crowdPlan]
  · simp only [overlapCount, left, overlapsAmong, Tracked.touches, List.countP_cons, List.countP_nil,
      standing_overlaps reaches]
    norm_num [crowdPlan]

end Tracker

end Sightline
