import Sightline.Evidence.Command
import Sightline.Proofs.Engine.Steps
import Sightline.Proofs.Plane.Crossing
import Sightline.Proofs.Scalar.Binary64
import Sightline.Proofs.Tracker.Accounting

/-!
# An engine is a grid and a tracker

A run of an engine falls apart into a run of its evidence by itself, which sees the rays that no
target claimed and a decay for each tick, and a run of a tracker by itself, which sees every ray
that was let in and the spawn, the merge and the expiry of each tick.
-/

set_option autoImplicit false

namespace Sightline

variable {α : Type} [Scalar α]

def TickReport.ledger (report : TickReport α) : Ledger :=
  .issue report.spawned ++ .join report.merged ++ .lapse report.expired

def Reply.ledger {site : Site α} : Reply site → Ledger
  | .ticked report => report.ledger
  | _ => .blank

namespace Site

variable (site : Site α)

/-- What an answered command does to evidence: a ray counts if it was gathered. -/
def gathered (command : Command α) (reply : Reply site) : List (EvidenceCommand α) :=
  match command.deed site, reply with
  | .ray camera ray, .traced (.ok .gathered) => [.trace camera ray]
  | .tick, _ => [.decay]
  | _, _ => []

def candidates (evidence : Evidence site.evidencePlan) : List (TrackerCommand α) :=
  if site.settings.spawnThreshold ≤ evidence.brightest.value then
    [.spawn evidence.brightest.position]
  else []

def asked (evidence : Evidence site.evidencePlan) (command : Command α) : List (TrackerCommand α) :=
  match command.deed site with
  | .ray _ ray => [.offer ray]
  | .tick => site.candidates evidence ++ [.merge, .expire]
  | .wait time => [.advance time]
  | .nothing => []

/-- What answered commands ask of the tracker, with the evidence replayed beside them. -/
def script (evidence : Evidence site.evidencePlan) :
    List (Command α × Reply site) → Except Abort (List (TrackerCommand α))
  | [] => .ok []
  | (command, reply) :: later => do
    let after ← evidence.performAll (site.gathered command reply)
    let others ← script after later
    .ok (site.asked evidence command ++ others)

def gatheredAll (history : List (Command α × Reply site)) : List (EvidenceCommand α) :=
  history.flatMap fun (command, reply) => site.gathered command reply

end Site

namespace Evidence

variable {plan : EvidencePlan α} {e after : Evidence plan}

theorem performAll_append_eq_ok {earlier later : List (EvidenceCommand α)} :
    e.performAll (earlier ++ later) = .ok after ↔
      ∃ middle, e.performAll earlier = .ok middle ∧ middle.performAll later = .ok after := by
  induction earlier generalizing e with
  | nil => simp [performAll]
  | cons command rest ih =>
      simp only [List.cons_append, performAll, bind_eq_ok, ih]
      constructor
      · rintro ⟨next, one, middle, start, rest⟩
        exact ⟨middle, ⟨next, one, start⟩, rest⟩
      · rintro ⟨middle, ⟨next, one, start⟩, rest⟩
        exact ⟨next, one, middle, start, rest⟩

end Evidence

theorem Lookout.perform_merge {plan : TrackerPlan α} {l : Lookout α} :
    l.perform plan .merge =
      .ok (.merged ((l.tracker.merge? plan).map (·.1)), { l with tracker := l.tracker.mergedOnce plan }) := by
  unfold Lookout.perform Tracker.mergedOnce
  cases l.tracker.merge? plan <;> rfl

namespace Engine

variable {site : Site α} {e : Engine site}

def lookout (e : Engine site) : Lookout α := ⟨e.watch.tracker, e.now⟩

/-! ## One step -/

theorem perform_gathered {command : Command α} {step : Step site (Reply site)}
    (done : e.perform command = .ok step) :
    e.evidence.performAll (site.gathered command step.result) = .ok step.engine.evidence := by
  have effect := perform_effect done
  unfold Site.gathered
  generalize command.deed site = deed at effect
  cases effect with
  | ray traced accepted same =>
      subst same
      cases accepted with
      | claimed _ evidence _ result _ =>
          simp [Step.map, result, Evidence.performAll, evidence]
      | gathered _ evidence _ result _ =>
          simp [Step.map, result, Evidence.performAll, Evidence.perform, evidence, bind, Except.bind]
  | tick ticked does same =>
      subst same
      simp [Step.map, Evidence.performAll, Evidence.perform, does.evidence, bind, Except.bind]
  | wait later after same =>
      subst same
      rfl
  | nothing unmoved _ _ _ =>
      simp [Evidence.performAll, unmoved.evidence]

theorem candidates_replayed :
    ∃ replies, e.lookout.performAll site.trackerPlan (site.candidates e.evidence) =
        .ok (replies, ⟨e.spawning.2.watch.tracker, e.now⟩) ∧
      Ledger.total (replies.map (·.ledger)) = .issue e.spawning.2.result := by
  unfold Site.candidates
  rcases spawning_cases (e := e) with ⟨weak, result, same⟩ | ⟨strong, tried⟩
  · rw [if_neg weak, result, same]
    exact ⟨[], rfl, rfl⟩
  · rw [if_pos strong]
    rcases tried with ⟨fault, refused, result, same⟩ | ⟨verdict, spawned, result⟩
    · refine ⟨[.spawned (.error fault)], ?_, ?_⟩
      · simp [Lookout.performAll, Lookout.perform, lookout, refused, same, bind, Except.bind]
      · rw [result]
        rfl
    · refine ⟨[.spawned (.ok verdict)], ?_, ?_⟩
      · simp [Lookout.performAll, Lookout.perform, lookout, spawned, bind, Except.bind]
      · rw [result]
        exact Ledger.append_blank _

theorem sweep_replayed {step : Step site (TickReport α)} (does : e.Ticked step) :
    (⟨e.spawning.2.watch.tracker, e.now⟩ : Lookout α).performAll site.trackerPlan [.merge, .expire] =
      .ok ([.merged step.result.merged, .expired step.result.expired], step.engine.lookout) := by
  refine Lookout.performAll_cons_eq_ok.2 ⟨.merged step.result.merged,
    ⟨e.spawning.2.watch.tracker.mergedOnce site.trackerPlan, e.now⟩, _, ?_, ?_, rfl⟩
  · rw [does.merged]
    exact Lookout.perform_merge
  · simp [Lookout.performAll, Lookout.perform, lookout, does.expired, does.now, bind, Except.bind]

/-- A tracker by itself that is asked what a command asks of it ends where the engine's tracker
ends, and gives out, merges and drops the same ids. -/
theorem perform_asked {command : Command α} {step : Step site (Reply site)}
    (done : e.perform command = .ok step) :
    ∃ replies, e.lookout.performAll site.trackerPlan (site.asked e.evidence command) =
        .ok (replies, step.engine.lookout) ∧
      Ledger.total (replies.map (·.ledger)) = step.result.ledger := by
  have effect := perform_effect done
  unfold Site.asked
  generalize command.deed site = deed at effect
  cases effect with
  | ray traced accepted same =>
      subst same
      cases accepted with
      | claimed offered _ now _ _ =>
          refine ⟨[.offered (.ok true)], ?_, rfl⟩
          simp [Lookout.performAll, Lookout.perform, lookout, offered, now, Step.map, bind, Except.bind]
      | gathered offered _ now _ _ =>
          refine ⟨[.offered (.ok false)], ?_, rfl⟩
          simp [Lookout.performAll, Lookout.perform, lookout, offered, now, Step.map, bind, Except.bind]
  | tick ticked does same =>
      subst same
      obtain ⟨replies, spawned, total⟩ := candidates_replayed (e := e)
      refine ⟨replies ++ [.merged ticked.result.merged, .expired ticked.result.expired], ?_, ?_⟩
      · exact Lookout.performAll_append_eq_ok.2 ⟨_, _, _, spawned, sweep_replayed does, rfl⟩
      · rw [List.map_append, Ledger.total_append, total, ← does.spawned]
        simp [Ledger.total, TrackerReply.ledger, Step.map, Reply.ledger, TickReport.ledger,
          Ledger.append_assoc]
  | wait later after same =>
      subst same
      refine ⟨[.advanced], ?_, rfl⟩
      simp [Lookout.performAll, Lookout.perform, lookout, after, silently, bind, Except.bind]
  | nothing unmoved _ noTick _ =>
      refine ⟨[], ?_, ?_⟩
      · simp [Lookout.performAll, lookout, unmoved.tracker, unmoved.now]
      · generalize step.result = reply at noTick
        cases reply with
        | ticked report => exact absurd rfl (noTick report)
        | _ => rfl

/-! ## Rays -/

theorem perform_ray [StrictScalar α] {command : Command α} {camera : String} {ray : Segment α}
    {answered : Step site (Reply site)} (brings : command.ray? site = some (camera, ray))
    (done : e.perform command = .ok answered) :
    (answered.result = .traced (.ok .claimed) ↔
        ∃ target ∈ e.watch.tracker.targets, (target.disc.crossing? ray).isSome = true) ∧
      (answered.result = .traced (.ok .claimed) → answered.engine.evidence = e.evidence) ∧
      (answered.result ≠ .traced (.ok .claimed) →
        answered.engine.watch.tracker = e.watch.tracker) := by
  have deedEq : command.deed site = .ofRay (some (camera, ray)) := by
    rw [← brings]
    cases command <;> first | rfl | cases brings
  have effect := perform_effect done
  rw [deedEq, Deed.ofRay] at effect
  split at effect
  · rename_i finite
    cases effect with
    | ray traced accepted same =>
        subst same
        cases accepted with
        | claimed offered evidence _ result _ =>
            have claimed := (Tracker.claimed_iff offered).1 rfl
            simpa [Step.map, result, evidence] using claimed
        | gathered offered _ _ result _ =>
            have unclaimed := (Tracker.claimed_iff offered).not.1 Bool.false_ne_true
            have same : traced.engine.watch.tracker = e.watch.tracker := by
              rcases Tracker.offer_eq_ok offered with ⟨_, same, _⟩ | ⟨_, claimed, _⟩
              · exact same
              · cases claimed
            simpa [Step.map, result, finite, same] using unclaimed
  · rename_i infinite
    cases effect with
    | nothing unmoved noRay _ _ =>
        refine ⟨⟨fun claimed => absurd claimed (noRay _), fun crossed => ?_⟩, ?_, ?_⟩
        · obtain ⟨_, _, crossing⟩ := crossed
          exact absurd (Disc.isFinite_of_crossing crossing) infinite
        · exact fun _ => unmoved.evidence
        · exact fun _ => unmoved.tracker

/-! ## Runs -/

theorem performAll_gathered {commands : List (Command α)} {run : Step site (List (Reply site))}
    (done : e.performAll commands = .ok run) :
    e.evidence.performAll (site.gatheredAll (commands.zip run.result)) =
      .ok run.engine.evidence := by
  induction commands generalizing e run with
  | nil =>
      cases done
      rfl
  | cons command rest ih =>
      obtain ⟨step, others, first, later, rfl⟩ := performAll_cons_eq_ok.1 done
      exact Evidence.performAll_append_eq_ok.2 ⟨_, perform_gathered first, ih later⟩

theorem performAll_asked {commands : List (Command α)} {run : Step site (List (Reply site))}
    (done : e.performAll commands = .ok run) :
    ∃ script replies, site.script e.evidence (commands.zip run.result) = .ok script ∧
      e.lookout.performAll site.trackerPlan script = .ok (replies, run.engine.lookout) ∧
      Ledger.total (replies.map (·.ledger)) = Ledger.total (run.result.map (·.ledger)) := by
  induction commands generalizing e run with
  | nil =>
      cases done
      exact ⟨[], [], rfl, rfl, rfl⟩
  | cons command rest ih =>
      obtain ⟨step, others, first, later, rfl⟩ := performAll_cons_eq_ok.1 done
      obtain ⟨script, replies, scriptEq, replayed, total⟩ := ih later
      obtain ⟨firstReplies, firstReplayed, firstTotal⟩ := perform_asked first
      refine ⟨site.asked e.evidence command ++ script, firstReplies ++ replies, ?_, ?_, ?_⟩
      · simp only [Step.append, Step.alone, List.singleton_append, List.zip_cons_cons, Site.script,
          bind_eq_ok]
        exact ⟨_, perform_gathered first, script, scriptEq, rfl⟩
      · exact Lookout.performAll_append_eq_ok.2 ⟨_, _, _, firstReplayed, replayed, rfl⟩
      · rw [List.map_append, Ledger.total_append, firstTotal, total]
        rfl

structure Factors (first : Engine site) (commands : List (Command α))
    (run : Step site (List (Reply site))) : Prop where
  /-- The evidence is that of a grid that got the gathered rays and a decay for each tick. -/
  evidence : Evidence.none.performAll (site.gatheredAll (commands.zip run.result)) =
    .ok run.engine.evidence
  /-- The targets are those of a tracker that got all rays with finite ends and, for each tick, the
  spawn at the focus of the replayed grid, if that is strong enough, a merge and an expiry. -/
  targets : ∃ script replies, site.script .none (commands.zip run.result) = .ok script ∧
    Lookout.start.performAll site.trackerPlan script = .ok (replies, run.engine.lookout)
  /-- Every ray is either claimed, which is when it crosses a target, or leaves the targets alone. -/
  rays : ∀ earlier command later camera ray, commands = earlier ++ command :: later →
    command.ray? site = some (camera, ray) →
      ∃ reached answered, first.performAll earlier = .ok reached ∧
        reached.engine.perform command = .ok answered ∧
        run.result[earlier.length]? = some answered.result ∧
        (answered.result = .traced (.ok .claimed) ↔
          ∃ target ∈ reached.engine.watch.tracker.targets,
            (target.disc.crossing? ray).isSome = true) ∧
        (answered.result = .traced (.ok .claimed) →
          answered.engine.evidence = reached.engine.evidence) ∧
        (answered.result ≠ .traced (.ok .claimed) →
          answered.engine.watch.tracker = reached.engine.watch.tracker)

theorem run_factors [StrictScalar α] {first : Engine site} {commands : List (Command α)}
    {run : Step site (List (Reply site))} (created : Engine.create site = .ok first)
    (done : first.performAll commands = .ok run) : first.Factors commands run := by
  have start := create_eq_ok created
  subst start
  refine ⟨performAll_gathered done, ?_, ?_⟩
  · obtain ⟨script, replies, scriptEq, replayed, _⟩ := performAll_asked done
    exact ⟨script, replies, scriptEq, replayed⟩
  · intro earlier command later camera ray split brings
    subst split
    obtain ⟨reached, answered, before, one, reply⟩ := performAll_at done
    exact ⟨reached, answered, before, one, reply, perform_ray brings one⟩

/-- Two cameras set a target, which claims a ray of a third. -/
def claimingRun : List (Command Float) :=
  [.trace "a" firstCellRay, .trace "b" firstCellRay, .tick, .trace "c" ⟨⟨0.5, -1⟩, ⟨0.5, 2⟩⟩]

theorem claimingRun_outcome : ∃ run,
    (start yard).performAll claimingRun = .ok run ∧ run.engine.tally.rayClaimed = 1 ∧
      run.engine.tally.spawned = 1 ∧ run.engine.targets.length = 1 := by
  have checked : yields ((start yard).performAll claimingRun) (fun run =>
      run.engine.tally.rayClaimed = 1 ∧ run.engine.tally.spawned = 1 ∧
        run.engine.targets.length = 1) = true := by
    decide +kernel
  obtain ⟨run, done, outcome⟩ := yields_iff.1 checked
  exact ⟨run, done, of_decide_eq_true outcome⟩

theorem claimingRun_factors : ∃ run,
    (start yard).performAll claimingRun = .ok run ∧
      run.engine.tally.rayClaimed = 1 ∧ run.engine.tally.rayGathered = 2 ∧
      (start yard).Factors claimingRun run := by
  have checked : yields ((start yard).performAll claimingRun) (fun run =>
      run.engine.tally.rayClaimed = 1 ∧ run.engine.tally.rayGathered = 2) = true := by
    decide +kernel
  obtain ⟨run, done, counted⟩ := yields_iff.1 checked
  obtain ⟨claimed, gathered⟩ := of_decide_eq_true counted
  exact ⟨run, done, claimed, gathered, run_factors rfl done⟩

end Engine

end Sightline
