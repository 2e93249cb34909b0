import Sightline.Proofs.Tally.Counts
import Sightline.Proofs.Tracker.Movement
import Sightline.Proofs.Tracker.Turns
import Sightline.Tracker.Accounted

/-!
# What it takes to set a target

A candidate becomes a target just if it stands clear of all cameras and of all live targets.  All live
targets have the radius of the plan, so one distance decides; and a candidate that is turned down
leaves a count of the reason and nothing else.
-/

set_option autoImplicit false

namespace Sightline

variable {α : Type} [Scalar α]

/-- A candidate is nearer to a camera or a target than the radii less the slack allow. -/
def TrackerPlan.TooNear (plan : TrackerPlan α) (candidate other : Point α) : Prop :=
  (other - candidate).norm < plan.radius + plan.radius - plan.spawnSlack

instance (plan : TrackerPlan α) (candidate other : Point α) :
    Decidable (plan.TooNear candidate other) :=
  inferInstanceAs (Decidable (_ < _))

def TrackerPlan.UnderCamera (plan : TrackerPlan α) (candidate : Point α) : Prop :=
  ∃ camera ∈ plan.cameras, plan.TooNear candidate camera

instance (plan : TrackerPlan α) (candidate : Point α) : Decidable (plan.UnderCamera candidate) :=
  inferInstanceAs (Decidable (∃ camera ∈ plan.cameras, _))

theorem requireFinite_of_not_finite {p : Point α} (infinite : p.isFinite = false) (entry : Entry) :
    requireFinite p entry = .error (.notFinite entry) := by
  rw [requireFinite, infinite]
  rfl

namespace Tracker

/-- All live targets are of the size and the patience that the plan gives. -/
def Uniform (plan : TrackerPlan α) (t : Tracker α) : Prop :=
  ∀ target ∈ t.targets, target.radius = plan.radius ∧ target.ttl = plan.ttl

def OnTarget (plan : TrackerPlan α) (t : Tracker α) (candidate : Point α) : Prop :=
  ∃ target ∈ t.targets, plan.TooNear candidate target.position

instance (plan : TrackerPlan α) (t : Tracker α) (candidate : Point α) :
    Decidable (t.OnTarget plan candidate) :=
  inferInstanceAs (Decidable (∃ target ∈ t.targets, _))

variable {plan : TrackerPlan α} {t : Tracker α} {now : Instant} {candidate : Point α}

/-! ## Uniform targets -/

omit [Scalar α] in
theorem uniform_empty (plan : TrackerPlan α) : (empty : Tracker α).Uniform plan := by
  intro target live
  cases live

omit [Scalar α] in
theorem Uniform.modify (uniform : t.Uniform plan) (index : Nat) (change : Tracked α → Tracked α)
    (same : ∀ target, (change target).radius = target.radius ∧ (change target).ttl = target.ttl) :
    Uniform plan { t with targets := t.targets.modify index change } := by
  intro target live
  rcases mem_modify live with old | ⟨before, there, rfl⟩
  · exact uniform target old
  · rw [(same before).1, (same before).2]
    exact uniform before (List.mem_of_getElem? there)

omit [Scalar α] in
theorem Uniform.withTarget (uniform : t.Uniform plan) :
    (t.withTarget plan now candidate).Uniform plan := by
  intro target live
  rcases List.mem_append.1 live with old | new
  · exact uniform target old
  · rw [List.mem_singleton.1 new]
    exact ⟨rfl, rfl⟩

/-! ## The verdict -/

theorem Uniform.any_overlaps (uniform : t.Uniform plan) (now : Instant) (candidate : Point α) :
    (t.targets.any fun target =>
        (⟨candidate, plan.radius, plan.ttl, now⟩ : Target α).overlaps target.toTarget plan.spawnSlack) =
      decide (t.OnTarget plan candidate) := by
  rw [Bool.eq_iff_iff, List.any_eq_true, decide_eq_true_iff]
  have overlaps : ∀ target ∈ t.targets,
      (⟨candidate, plan.radius, plan.ttl, now⟩ : Target α).overlaps target.toTarget plan.spawnSlack =
        decide (plan.TooNear candidate target.position) := by
    intro target live
    have radius := (uniform target live).1
    simp only [Target.overlaps, Disc.overlaps, Target.disc, TrackerPlan.TooNear, radius]
    rfl
  constructor
  · rintro ⟨target, live, overlap⟩
    rw [overlaps target live] at overlap
    exact ⟨target, live, of_decide_eq_true overlap⟩
  · rintro ⟨target, live, near⟩
    exact ⟨target, live, by rw [overlaps target live, decide_eq_true near]⟩

theorem spawn_of_not_finite (infinite : candidate.isFinite = false) :
    t.spawn plan now candidate = .error (.notFinite .spawnCandidate) := by
  rw [spawn, requireFinite_of_not_finite infinite]
  rfl

/-- Cameras are looked at before targets. -/
theorem Uniform.spawn_eq (uniform : t.Uniform plan) (now : Instant)
    (finite : candidate.isFinite = true) :
    t.spawn plan now candidate = .ok (
      if plan.UnderCamera candidate then (.underCamera, t)
      else if t.OnTarget plan candidate then (.onTarget, t)
      else (.spawned t.issuer.next.1, t.withTarget plan now candidate)) := by
  have cameras : (plan.cameras.any fun camera =>
      (⟨candidate, plan.radius, plan.ttl, now⟩ : Target α).disc.overlaps
        ⟨camera, plan.radius⟩ plan.spawnSlack) = decide (plan.UnderCamera candidate) := by
    rw [Bool.eq_iff_iff, List.any_eq_true, decide_eq_true_iff]
    simp only [Disc.overlaps, decide_eq_true_eq]
    rfl
  simp only [Tracker.spawn, requireFinite, finite, spawnFinite, cameras, uniform.any_overlaps,
    decide_eq_true_eq]
  rfl

end Tracker

/-! ## Commands -/

namespace Lookout

variable {plan : TrackerPlan α} {l after : Lookout α}

theorem Turn.uniform {command : TrackerCommand α} (turn : l.Turn plan command after)
    (uniform : l.tracker.Uniform plan) : after.tracker.Uniform plan := by
  cases turn with
  | missed | faulty | declined | apart | waited => exact uniform
  | claimed claim => exact uniform.modify claim.index _ fun _ => ⟨rfl, rfl⟩
  | set => exact uniform.withTarget
  | @merged first second position =>
      have moved := uniform.modify first.2 (·.moveTo position) fun _ => ⟨rfl, rfl⟩
      exact fun target live => moved target (List.mem_of_mem_eraseIdx live)
  | expired => exact fun target live => uniform target (List.mem_filter.1 live).1

theorem performAll_uniform {commands : List (TrackerCommand α)} {replies : List (TrackerReply α)}
    (done : start.performAll plan commands = .ok (replies, after)) : after.tracker.Uniform plan :=
  performAll_keeps (fun _ _ _ uniform turn => turn.uniform uniform)
    (Tracker.uniform_empty plan) done

end Lookout

/-! ## The books -/

namespace Watch

variable {w : Watch α} {plan : TrackerPlan α} {now : Instant} {candidate : Point α}

/-- What a spawn does that is not refused as faulty. -/
structure Spawns (w : Watch α) (plan : TrackerPlan α) (now : Instant) (candidate : Point α)
    (done : Watched α (Option TargetId)) : Prop where
  isSome_iff : done.result.isSome = true ↔
    (∀ camera ∈ plan.cameras, ¬ plan.TooNear candidate camera) ∧
      ∀ target ∈ w.tracker.targets, ¬ plan.TooNear candidate target.position
  /-- The target is set behind all others, under the id that is answered. -/
  set : ∀ id, done.result = some id → id = w.tracker.issuer.next.1 ∧
    done.watch.tracker = ⟨w.tracker.targets ++ [⟨⟨candidate, plan.radius, plan.ttl, now⟩, id⟩],
      w.tracker.issuer.next.2⟩ ∧
    Tally.Counts w.tally done.watch.tally [.spawnTried, .spawned]
  /-- A camera is the reason whenever one is too near. -/
  refused : done.result = none → done.watch.tracker = w.tracker ∧
    ∃ reason, done.watch.tally = w.tally.countAll [.spawnTried, reason] ∧
      (plan.UnderCamera candidate ∧ reason = .spawnUnderCamera ∨
        ¬ plan.UnderCamera candidate ∧ w.tracker.OnTarget plan candidate ∧ reason = .spawnOnTarget)

/-- Everything that can be said of a spawn: it fails just if the candidate is not finite, and then
whoever asked goes on with what he had. -/
structure SpawnPolicy (w : Watch α) (plan : TrackerPlan α) (now : Instant) (candidate : Point α) :
    Prop where
  fails_iff : (∃ fault, w.spawn plan now candidate = .error fault) ↔ candidate.isFinite = false
  failure : candidate.isFinite = false →
    w.spawn plan now candidate = .error (.notFinite .spawnCandidate)
  success : candidate.isFinite = true → ∃ done, w.spawn plan now candidate = .ok done ∧
    w.Spawns plan now candidate done

theorem spawn_of_not_finite (infinite : candidate.isFinite = false) :
    w.spawn plan now candidate = .error (.notFinite .spawnCandidate) := by
  rw [spawn, Tracker.spawn_of_not_finite infinite]
  rfl

theorem spawns_underCamera (under : plan.UnderCamera candidate) :
    w.Spawns plan now candidate
      ⟨none, (w.count .spawnTried).count .spawnUnderCamera, []⟩ := by
  refine ⟨⟨fun given => (by cases given), fun clear => ?_⟩, fun id given => (by cases given),
    fun _ => ⟨rfl, _, rfl, .inl ⟨under, rfl⟩⟩⟩
  obtain ⟨camera, mounted, near⟩ := under
  exact absurd near (clear.1 camera mounted)

theorem spawns_onTarget (notUnder : ¬ plan.UnderCamera candidate)
    (on : w.tracker.OnTarget plan candidate) :
    w.Spawns plan now candidate ⟨none, (w.count .spawnTried).count .spawnOnTarget, []⟩ := by
  refine ⟨⟨fun given => (by cases given), fun clear => ?_⟩, fun id given => (by cases given),
    fun _ => ⟨rfl, _, rfl, .inr ⟨notUnder, on, rfl⟩⟩⟩
  obtain ⟨target, live, near⟩ := on
  exact absurd near (clear.2 target live)

theorem spawns_clear (notUnder : ¬ plan.UnderCamera candidate)
    (notOn : ¬ w.tracker.OnTarget plan candidate) (notes : List (Note α)) :
    w.Spawns plan now candidate ⟨some w.tracker.issuer.next.1,
      ((w.count .spawnTried).gauge (w.tracker.withTarget plan now candidate)).count .spawned,
      notes⟩ := by
  refine ⟨⟨fun _ => ⟨fun camera mounted near => ?_, fun target live near => ?_⟩, fun _ => rfl⟩,
    fun id given => ?_, fun refused => by cases refused⟩
  · exact notUnder ⟨camera, mounted, near⟩
  · exact notOn ⟨target, live, near⟩
  · cases given
    refine ⟨rfl, rfl, ?_⟩
    have tried := Tally.Counts.count w.tally .spawnTried
    exact (tried.append (.read _ .liveTargets _)).append (.count _ .spawned)

theorem spawnPolicy (uniform : w.tracker.Uniform plan) : w.SpawnPolicy plan now candidate := by
  have success : candidate.isFinite = true → ∃ done, w.spawn plan now candidate = .ok done ∧
      w.Spawns plan now candidate done := by
    intro finite
    have verdict := uniform.spawn_eq now finite
    by_cases under : plan.UnderCamera candidate
    · rw [if_pos under] at verdict
      rw [spawn, verdict]
      exact ⟨_, rfl, spawns_underCamera under⟩
    · rw [if_neg under] at verdict
      by_cases on : w.tracker.OnTarget plan candidate
      · rw [if_pos on] at verdict
        rw [spawn, verdict]
        exact ⟨_, rfl, spawns_onTarget under on⟩
      · rw [if_neg on] at verdict
        rw [spawn, verdict]
        exact ⟨_, rfl, spawns_clear under on _⟩
  refine ⟨⟨?_, fun infinite => ⟨_, spawn_of_not_finite infinite⟩⟩, spawn_of_not_finite, success⟩
  rintro ⟨fault, failed⟩
  rw [← Bool.not_eq_true]
  intro finite
  obtain ⟨done, spawned, _⟩ := success finite
  rw [spawned] at failed
  cases failed

end Watch

end Sightline
