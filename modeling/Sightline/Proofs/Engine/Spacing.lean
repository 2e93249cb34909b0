import Sightline.Proofs.Engine.Factoring
import Sightline.Proofs.Tracker.Spacing

/-!
# Targets are set apart

Whoever asks for a target, the same policy decides; and over every run, of a tracker by itself and of
an engine, the targets that nothing has moved since they were set keep their distance from each other
and from the cameras.
-/

set_option autoImplicit false

namespace Sightline

variable {α : Type} [Scalar α]

theorem Lookout.perform_spawn_of_not_finite {plan : TrackerPlan α} {l : Lookout α}
    {candidate : Point α} (infinite : candidate.isFinite = false) :
    l.perform plan (.spawn candidate) =
      .ok (.spawned (.error (.notFinite .spawnCandidate)), l) := by
  rw [perform, Tracker.spawn_of_not_finite infinite]

namespace Engine

variable {site : Site α} {first : Engine site} {commands : List (Command α)}
  {run : Step site (List (Reply site))}

theorem watch_spawnAt_of_not_finite {w : Watch α} {now : Instant} {focus : Focus α}
    (infinite : focus.position.isFinite = false) : (spawnAt w site now focus).watch = w := by
  rw [spawnAt, Watch.spawn_of_not_finite infinite]
  split <;> rfl

/-- What a run of an engine says of the targets that it leaves: the policy goes on to hold, and those
that nothing has moved keep their distance. -/
structure SetsApart (commands : List (Command α)) (run : Step site (List (Reply site))) : Prop where
  uniform : run.engine.watch.tracker.Uniform site.trackerPlan
  policy : ∀ now candidate, run.engine.watch.SpawnPolicy site.trackerPlan now candidate
  separated : ∃ script replies, site.script .none (commands.zip run.result) = .ok script ∧
    Lookout.start.performAll site.trackerPlan script = .ok (replies, run.engine.lookout) ∧
    Lookout.Separated site.trackerPlan run.engine.lookout
      (Lookout.start.recollectAll site.trackerPlan [] script)

theorem uniform_of_performAll (created : Engine.create site = .ok first)
    (done : first.performAll commands = .ok run) :
    run.engine.watch.tracker.Uniform site.trackerPlan := by
  have start := create_eq_ok created
  subst start
  obtain ⟨_, _, _, replayed, _⟩ := performAll_asked done
  exact Lookout.performAll_uniform replayed

theorem setsApart [SymmetricScalar α] (created : Engine.create site = .ok first)
    (done : first.performAll commands = .ok run) : SetsApart commands run := by
  have uniform := uniform_of_performAll created done
  have start := create_eq_ok created
  subst start
  obtain ⟨script, replies, scriptEq, replayed, _⟩ := performAll_asked done
  have recollects := (Lookout.recollects_start site.trackerPlan).recollectAll replayed
  exact ⟨uniform, fun _ _ => Watch.spawnPolicy uniform,
    script, replies, scriptEq, replayed, recollects.separated⟩

end Engine

/-- The policy by which targets are set, and the distances that it leaves behind it. -/
theorem targets_are_set_apart [SymmetricScalar α] :
    (∀ (plan : TrackerPlan α) (w : Watch α) (now : Instant) (candidate : Point α),
      w.tracker.Uniform plan → w.SpawnPolicy plan now candidate) ∧
    (∀ candidate : Point α, candidate.isFinite = false →
      (∀ (plan : TrackerPlan α) (l : Lookout α), l.perform plan (.spawn candidate) =
        .ok (.spawned (.error (.notFinite .spawnCandidate)), l)) ∧
      ∀ (site : Site α) (w : Watch α) (now : Instant) (value : α),
        (Engine.spawnAt w site now ⟨candidate, value⟩).watch = w) ∧
    (∀ (plan : TrackerPlan α) (commands : List (TrackerCommand α))
        (replies : List (TrackerReply α)) (after : Lookout α),
      Lookout.start.performAll plan commands = .ok (replies, after) →
        after.tracker.Uniform plan ∧
          Lookout.Separated plan after (Lookout.start.recollectAll plan [] commands)) ∧
    ∀ (site : Site α) (first : Engine site) (commands : List (Command α))
        (run : Step site (List (Reply site))),
      Engine.create site = .ok first → first.performAll commands = .ok run →
        Engine.SetsApart commands run := by
  refine ⟨fun _ _ _ _ uniform => Watch.spawnPolicy uniform, fun candidate infinite => ⟨?_, ?_⟩, ?_,
    fun _ _ _ _ created done => Engine.setsApart created done⟩
  · exact fun _ _ => Lookout.perform_spawn_of_not_finite infinite
  · exact fun _ _ _ _ => Engine.watch_spawnAt_of_not_finite infinite
  · intro plan commands replies after done
    have recollects := (Lookout.recollects_start plan).recollectAll done
    exact ⟨recollects.uniform, recollects.separated⟩

def courtyardPlan : TrackerPlan Float := { yard.trackerPlan with cameras := [⟨5, 5⟩] }

/-- One candidate is under the camera and one is on a target; four targets are set, of which the first
claims a ray and survives a merge with the second. -/
def courtyardRun : List (TrackerCommand Float) :=
  [.spawn ⟨5, 5.1⟩, .spawn ⟨0.5, 0.5⟩, .spawn ⟨0.5, 0.6⟩, .spawn ⟨1.5, 0.5⟩, .spawn ⟨3, 3⟩,
    .spawn ⟨3, 3.5⟩, .offer ⟨⟨0.5, -1⟩, ⟨0.5, 2⟩⟩, .merge]

theorem courtyard_is_set_apart :
    (∃ replies after, Lookout.start.performAll courtyardPlan courtyardRun = .ok (replies, after) ∧
      (Lookout.start.recollectAll courtyardPlan [] courtyardRun).map
          (fun past => (past.nudged, past.survivor)) =
        [(true, true), (false, false), (false, false)] ∧
      after.tracker.Uniform courtyardPlan ∧
      Lookout.Separated courtyardPlan after
        (Lookout.start.recollectAll courtyardPlan [] courtyardRun) ∧
      Watch.SpawnPolicy ⟨after.tracker, .zero⟩ courtyardPlan after.now ⟨5, 5⟩ ∧
      after.perform courtyardPlan (.spawn ⟨1 / 0, 0⟩) =
        .ok (.spawned (.error (.notFinite .spawnCandidate)), after)) ∧
    ∃ run, (Engine.start yard).performAll Engine.claimingRun = .ok run ∧
      run.engine.tally.rayClaimed = 1 ∧ Engine.SetsApart Engine.claimingRun run := by
  have alone : yields (Lookout.start.performAll courtyardPlan courtyardRun) (fun _ =>
      (Lookout.start.recollectAll courtyardPlan [] courtyardRun).map
          (fun past => (past.nudged, past.survivor)) =
        [(true, true), (false, false), (false, false)]) = true := by
    decide +kernel
  obtain ⟨⟨replies, after⟩, done, noted⟩ := yields_iff.1 alone
  obtain ⟨run, engineDone, claimed, _⟩ := Engine.claimingRun_outcome
  obtain ⟨policy, failure, lookouts, engines⟩ := targets_are_set_apart (α := Float)
  obtain ⟨uniform, separated⟩ := lookouts courtyardPlan courtyardRun replies after done
  refine ⟨⟨replies, after, done, of_decide_eq_true noted, uniform, separated,
    policy _ ⟨after.tracker, .zero⟩ _ _ uniform, ?_⟩,
    run, engineDone, claimed, engines yard _ Engine.claimingRun run rfl engineDone⟩
  exact (failure ⟨1 / 0, 0⟩ (by decide +kernel)).1 courtyardPlan after

end Sightline
