import Sightline.Proofs.Engine.Identity
import Sightline.Proofs.Tracker.Chronicle

/-!
# Lifetimes over whole runs

Whether it is used by itself or by an engine, a tracker refreshes a target when it is set and when it
claims a ray, and at no other time; and it drops a target at the first expiry that comes later than
the time to live after the latest of these.
-/

set_option autoImplicit false

namespace Sightline

variable {α : Type} [Scalar α]

namespace Engine

variable {site : Site α} {e first : Engine site} {commands : List (Command α)}
  {run : Step site (List (Reply site))}

/-- What the chronicle of the engine's tracker says of the targets that a run of the engine leaves,
and of each tick. -/
structure Chronicled (first : Engine site) (commands : List (Command α))
    (run : Step site (List (Reply site))) : Prop where
  targets : ∃ script replies, site.script .none (commands.zip run.result) = .ok script ∧
    Lookout.start.performAll site.trackerPlan script = .ok (replies, run.engine.lookout) ∧
    Ledger.total (replies.map (·.ledger)) = Ledger.total (run.result.map (·.ledger)) ∧
    Lookout.Chronicled site.trackerPlan script replies run.engine.lookout
      (Lookout.start.recordAll site.trackerPlan [] script)
  ticks : ∀ earlier later, commands = earlier ++ .tick :: later →
    ∃ before ticked, first.performAll earlier = .ok before ∧ before.engine.tick = .ok ticked ∧
      run.result[earlier.length]? = some (.ticked ticked.result) ∧
      (before.engine.spawning.2.watch.tracker.mergedOnce site.trackerPlan).Drops
        site.trackerPlan.ttl before.engine.now ticked.result.expired ticked.engine.watch.tracker

/-- The lives that have been noted when a tick comes to drop what is stale. -/
theorem remembers_mergedOnce {lives : List Life}
    (remembers : Lookout.Remembers site.trackerPlan e.lookout lives) :
    ∃ noted, Lookout.Remembers site.trackerPlan
      ⟨e.spawning.2.watch.tracker.mergedOnce site.trackerPlan, e.now⟩ noted := by
  obtain ⟨replies, spawned, _⟩ := candidates_replayed (e := e)
  exact ⟨_, (remembers.recordAll spawned).record (Lookout.perform_turn Lookout.perform_merge)⟩

theorem Ticked.drops {lives : List Life} {ticked : Step site (TickReport α)}
    (does : e.Ticked ticked) (remembers : Lookout.Remembers site.trackerPlan e.lookout lives) :
    (e.spawning.2.watch.tracker.mergedOnce site.trackerPlan).Drops site.trackerPlan.ttl e.now
      ticked.result.expired ticked.engine.watch.tracker := by
  obtain ⟨noted, merging⟩ := remembers_mergedOnce remembers
  exact Tracker.expire_drops (fun _ => merging.ttl) does.expired

theorem chronicled (created : Engine.create site = .ok first)
    (done : first.performAll commands = .ok run) : first.Chronicled commands run := by
  have start := create_eq_ok created
  subst start
  refine ⟨?_, ?_⟩
  · obtain ⟨script, replies, scriptEq, replayed, total⟩ := performAll_asked done
    exact ⟨script, replies, scriptEq, replayed, total, Lookout.chronicled replayed⟩
  · intro earlier later split
    subst split
    obtain ⟨before, answered, reached, one, reply⟩ := performAll_at done
    obtain ⟨script, replies, _, replayed, _⟩ := performAll_asked reached
    have remembers := (Lookout.remembers_start site.trackerPlan).recordAll replayed
    simp only [perform, bind_eq_ok] at one
    obtain ⟨ticked, ticking, result⟩ := one
    cases result
    exact ⟨before, ticked, reached, ticking, reply, (tick_eq_ok ticking).drops remembers⟩

end Engine

/-- The lifetimes of targets over every run, of a tracker by itself and of an engine. -/
theorem targets_live_by_their_refreshes :
    (∀ (plan : TrackerPlan α) (commands : List (TrackerCommand α))
        (replies : List (TrackerReply α)) (after : Lookout α),
      Lookout.start.performAll plan commands = .ok (replies, after) →
        Lookout.Chronicled plan commands replies after
          (Lookout.start.recordAll plan [] commands)) ∧
      ∀ (site : Site α) (first : Engine site) (commands : List (Command α))
          (run : Step site (List (Reply site))),
        Engine.create site = .ok first → first.performAll commands = .ok run →
          first.Chronicled commands run :=
  ⟨fun _ _ _ _ done => Lookout.chronicled done,
    fun _ _ _ _ created done => Engine.chronicled created done⟩

/-- The first target outlives its time, the second is merged into it; in the run of the engine the
only target claims a ray. -/
theorem turnover_chronicled :
    (∃ replies after, Lookout.start.performAll yard.trackerPlan turnover = .ok (replies, after) ∧
      Lookout.start.recordAll yard.trackerPlan [] turnover =
        [⟨⟨0⟩, [], [⟨⟨6000000000⟩, ⟨0⟩⟩], false⟩,
          ⟨⟨6000000000⟩, [], [⟨⟨6000000000⟩, ⟨6000000000⟩⟩], true⟩] ∧
      Lookout.Chronicled yard.trackerPlan turnover replies after
        (Lookout.start.recordAll yard.trackerPlan [] turnover)) ∧
    ∃ run, (Engine.start yard).performAll Engine.claimingRun = .ok run ∧
      run.engine.tally.rayClaimed = 1 ∧ (Engine.start yard).Chronicled Engine.claimingRun run := by
  have alone : yields (Lookout.start.performAll yard.trackerPlan turnover) (fun _ =>
      Lookout.start.recordAll yard.trackerPlan [] turnover =
        [⟨⟨0⟩, [], [⟨⟨6000000000⟩, ⟨0⟩⟩], false⟩,
          ⟨⟨6000000000⟩, [], [⟨⟨6000000000⟩, ⟨6000000000⟩⟩], true⟩]) = true := by
    decide +kernel
  obtain ⟨⟨replies, after⟩, done, noted⟩ := yields_iff.1 alone
  obtain ⟨run, engineDone, claimed, _⟩ := Engine.claimingRun_outcome
  refine ⟨⟨replies, after, done, of_decide_eq_true noted, ?_⟩,
    run, engineDone, claimed, ?_⟩
  · exact targets_live_by_their_refreshes.1 yard.trackerPlan turnover replies after done
  · exact targets_live_by_their_refreshes.2 yard _ Engine.claimingRun run rfl engineDone

end Sightline
