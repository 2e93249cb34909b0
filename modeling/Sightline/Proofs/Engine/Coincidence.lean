import Sightline.Proofs.Engine.Spacing
import Sightline.Proofs.Scalar.Distances

/-!
# A candidate right on a camera or a target

A candidate is at no distance from itself, so it is turned down where a camera or a target stands just
if the slack is below the radii; and the check of the settings does not compare the two.  With a slack
that is not, no distance is ever too small, and a target is set wherever one is asked for.
-/

set_option autoImplicit false

namespace Sightline

variable {α : Type} [Scalar α] [DistanceScalar α]

theorem Point.norm_sub_self {p : Point α} (finite : p.isFinite = true) : (p - p).norm = 0 := by
  obtain ⟨across, up⟩ := Bool.and_eq_true_iff.1 finite
  have same : p - p = ⟨0, 0⟩ :=
    congrArg₂ Point.mk (DistanceScalar.sub_self across) (DistanceScalar.sub_self up)
  rw [same]
  exact DistanceScalar.sqrt_no_squares

namespace TrackerPlan

/-- The radii exceed the slack, so that targets keep some distance. -/
def Repels (plan : TrackerPlan α) : Prop := plan.spawnSlack < plan.radius + plan.radius

omit [DistanceScalar α] in
instance (plan : TrackerPlan α) : Decidable plan.Repels := inferInstanceAs (Decidable (_ < _))

variable {plan : TrackerPlan α} {p q : Point α}

theorem tooNear_self (finite : p.isFinite = true) : plan.TooNear p p ↔ plan.Repels := by
  rw [TooNear, Point.norm_sub_self finite]
  exact DistanceScalar.sub_pos_iff

theorem Repels.of_tooNear (near : plan.TooNear p q) : plan.Repels :=
  DistanceScalar.sub_pos_iff.1 (DistanceScalar.pos_of_sqrt_lt near)

end TrackerPlan

namespace Tracker

/-- What is asked of the law that no target is set right on a camera or a target. -/
structure KeepsOff (plan : TrackerPlan α) (t : Tracker α) : Prop where
  cameras : ∀ (now : Instant), ∀ camera ∈ plan.cameras, camera.isFinite = true →
    t.spawn plan now camera = .ok (.underCamera, t)
  targets : ∀ (now : Instant), ∀ target ∈ t.targets, target.position.isFinite = true →
    ∃ verdict, t.spawn plan now target.position = .ok (verdict, t) ∧ verdict.id? = none

/-- A target is set wherever one is asked for. -/
def SetsEverywhere (plan : TrackerPlan α) (t : Tracker α) : Prop :=
  ∀ (now : Instant) (candidate : Point α), candidate.isFinite = true →
    t.spawn plan now candidate =
      .ok (.spawned t.issuer.next.1, t.withTarget plan now candidate)

variable {plan : TrackerPlan α} {t : Tracker α}

theorem Uniform.keepsOff (uniform : t.Uniform plan) (repels : plan.Repels) : t.KeepsOff plan := by
  refine ⟨fun now camera mounted finite => ?_, fun now target live finite => ?_⟩
  · have under : plan.UnderCamera camera :=
      ⟨camera, mounted, (TrackerPlan.tooNear_self finite).2 repels⟩
    rw [uniform.spawn_eq now finite, if_pos under]
  · have on : t.OnTarget plan target.position :=
      ⟨target, live, (TrackerPlan.tooNear_self finite).2 repels⟩
    rw [uniform.spawn_eq now finite, if_pos on]
    by_cases under : plan.UnderCamera target.position
    · exact ⟨.underCamera, by rw [if_pos under], rfl⟩
    · exact ⟨.onTarget, by rw [if_neg under], rfl⟩

theorem Uniform.setsEverywhere (uniform : t.Uniform plan) (loose : ¬ plan.Repels) :
    t.SetsEverywhere plan := by
  intro now candidate finite
  have notUnder : ¬ plan.UnderCamera candidate := by
    rintro ⟨_, _, near⟩
    exact loose (.of_tooNear near)
  have notOn : ¬ t.OnTarget plan candidate := by
    rintro ⟨_, _, near⟩
    exact loose (.of_tooNear near)
  rw [uniform.spawn_eq now finite, if_neg notUnder, if_neg notOn]

end Tracker

/-- Over every run, of a tracker by itself and of an engine, targets keep off cameras and targets if the
radii exceed the slack, and otherwise a target is set wherever one is asked for; a place that is not
finite is never a candidate. -/
theorem targets_keep_off_iff_repelled :
    (∀ (plan : TrackerPlan α) (commands : List (TrackerCommand α))
        (replies : List (TrackerReply α)) (after : Lookout α),
      Lookout.start.performAll plan commands = .ok (replies, after) →
        (plan.Repels → after.tracker.KeepsOff plan) ∧
          (¬ plan.Repels → after.tracker.SetsEverywhere plan)) ∧
    (∀ (site : Site α) (first : Engine site) (commands : List (Command α))
        (run : Step site (List (Reply site))),
      Engine.create site = .ok first → first.performAll commands = .ok run →
        (site.trackerPlan.Repels → run.engine.watch.tracker.KeepsOff site.trackerPlan) ∧
          (¬ site.trackerPlan.Repels →
            run.engine.watch.tracker.SetsEverywhere site.trackerPlan)) ∧
    ∀ (plan : TrackerPlan α) (t : Tracker α) (now : Instant) (candidate : Point α),
      candidate.isFinite = false →
        t.spawn plan now candidate = .error (.notFinite .spawnCandidate) := by
  refine ⟨fun plan commands replies after done => ?_, fun site first commands run created done => ?_,
    fun _ _ _ _ infinite => Tracker.spawn_of_not_finite infinite⟩
  · have uniform := Lookout.performAll_uniform done
    exact ⟨uniform.keepsOff, uniform.setsEverywhere⟩
  · have uniform := Engine.uniform_of_performAll created done
    exact ⟨uniform.keepsOff, uniform.setsEverywhere⟩

/-- Targets of half a metre with the standard slack of a metre: nothing is left of the distance. -/
def snugSettings : Settings Float :=
  { Settings.standard with bounds := ⟨0, 0, 2, 1⟩, columns := 2, rows := 1, targetRadius := 0.5 }

/-- One camera in the middle of the first cell. -/
def snugInstallation : Installation Float :=
  ⟨Directory.empty.insert "cam" ⟨"cam", none, ⟨⟨1, 0⟩, ⟨0.5, 0.5⟩⟩⟩, none⟩

def snugPlan : TrackerPlan Float := .ofSettings snugSettings snugInstallation

/-- Settings that pass the check set one target right on a camera and another one right on the first. -/
theorem snugSettings_set_on_camera :
    snugSettings.problem? = none ∧ snugInstallation.positions = [⟨0.5, 0.5⟩] ∧
      (⟨0.5, 0.5⟩ : Point Float).isFinite = true ∧
      ∃ replies after, Lookout.start.performAll snugPlan [.spawn ⟨0.5, 0.5⟩, .spawn ⟨0.5, 0.5⟩] =
          .ok (replies, after) ∧
        after.tracker.ids = [⟨1⟩, ⟨2⟩] := by
  have checked : yields (Lookout.start.performAll snugPlan [.spawn ⟨0.5, 0.5⟩, .spawn ⟨0.5, 0.5⟩])
      (fun (_, after) => after.tracker.ids = [⟨1⟩, ⟨2⟩]) = true := by
    decide +kernel
  obtain ⟨⟨replies, after⟩, done, ids⟩ := yields_iff.1 checked
  refine ⟨?_, rfl, by decide +kernel, replies, after, done, of_decide_eq_true ids⟩
  rw [← Option.isNone_iff_eq_none]
  decide +kernel

/-- The targets of the courtyard keep off, those of the snug settings do not. -/
theorem courtyard_keeps_off :
    (∃ replies after, Lookout.start.performAll courtyardPlan courtyardRun = .ok (replies, after) ∧
      after.tracker.targets.length = 3 ∧ courtyardPlan.Repels ∧
      after.tracker.KeepsOff courtyardPlan) ∧
    (∃ replies after, Lookout.start.performAll snugPlan [.spawn ⟨0.5, 0.5⟩] = .ok (replies, after) ∧
      ¬ snugPlan.Repels ∧ after.tracker.SetsEverywhere snugPlan) ∧
    (∃ run, (Engine.start yard).performAll Engine.claimingRun = .ok run ∧
      yard.trackerPlan.Repels ∧ run.engine.watch.tracker.KeepsOff yard.trackerPlan) ∧
    Tracker.empty.spawn courtyardPlan .zero ⟨1 / 0, 0⟩ = .error (.notFinite .spawnCandidate) := by
  obtain ⟨lookouts, engines, infinite⟩ := targets_keep_off_iff_repelled (α := Float)
  have full : yields (Lookout.start.performAll courtyardPlan courtyardRun) (fun (_, after) =>
      after.tracker.targets.length = 3) = true := by
    decide +kernel
  have snug : yields (Lookout.start.performAll snugPlan [.spawn ⟨0.5, 0.5⟩])
      (fun _ => True) = true := by
    decide +kernel
  obtain ⟨⟨replies, after⟩, done, three⟩ := yields_iff.1 full
  obtain ⟨⟨snugReplies, snugAfter⟩, snugDone, _⟩ := yields_iff.1 snug
  obtain ⟨run, engineDone, _⟩ := Engine.claimingRun_outcome
  have repels : courtyardPlan.Repels := by decide +kernel
  have loose : ¬ snugPlan.Repels := by decide +kernel
  have yardRepels : yard.trackerPlan.Repels := by decide +kernel
  refine ⟨⟨replies, after, done, of_decide_eq_true three, repels, ?_⟩,
    ⟨snugReplies, snugAfter, snugDone, loose, ?_⟩, ⟨run, engineDone, yardRepels, ?_⟩, ?_⟩
  · exact (lookouts courtyardPlan courtyardRun replies after done).1 repels
  · exact (lookouts snugPlan _ snugReplies snugAfter snugDone).2 loose
  · exact (engines yard _ Engine.claimingRun run rfl engineDone).1 yardRepels
  · exact infinite courtyardPlan .empty .zero ⟨1 / 0, 0⟩ (by decide +kernel)

end Sightline
