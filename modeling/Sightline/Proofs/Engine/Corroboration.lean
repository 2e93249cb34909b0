import Sightline.Proofs.Engine.Factoring
import Sightline.Proofs.Engine.Sites
import Sightline.Proofs.Evidence.Saliency
import Sightline.Proofs.Scalar.Binary64

/-!
# Targets are set where two cameras agree

A tick sets a target only at a focus that reaches the threshold, and with a positive threshold only
the evidence of two cameras can make one.
-/

set_option autoImplicit false

namespace Sightline

variable {α : Type} [Scalar α]

theorem Site.create_eq_ok {settings : Settings α} {installation : Installation α} {site : Site α}
    (made : Site.create settings installation = .ok site) :
    site.settings = settings ∧ site.evidencePlan.maskThreshold = settings.maskThreshold := by
  obtain ⟨_, tiling, _, rfl⟩ := of_create made
  exact ⟨rfl, rfl⟩

namespace Engine

variable {site : Site α} {e : Engine site} {ticked : Step site (TickReport α)} {id : TargetId}

theorem Ticked.of_spawned (does : e.Ticked ticked) (spawned : ticked.result.spawned = some id) :
    site.settings.spawnThreshold ≤ e.evidence.brightest.value ∧
      ∃ target, e.spawning.2.watch.tracker.targets = e.watch.tracker.targets ++ [target] ∧
        target.id = id ∧ target.position = e.evidence.brightest.position := by
  rw [does.spawned] at spawned
  rcases spawning_cases (e := e) with ⟨_, none, _⟩ | ⟨strong, ⟨_, _, none, _⟩ | tried⟩
  · rw [none] at spawned
    cases spawned
  · rw [none] at spawned
    cases spawned
  · obtain ⟨verdict, set, result⟩ := tried
    rw [spawned] at result
    rcases Tracker.spawn_eq_ok set with ⟨none, _⟩ | ⟨verdictEq, after⟩
    · rw [none] at result
      cases result
    · rw [verdictEq] at result
      cases result
      rw [after]
      exact ⟨strong, _, rfl, rfl, rfl⟩

variable [LawfulScalar α]

theorem Ticked.corroborated (does : e.Ticked ticked) (positive : 0 < site.settings.spawnThreshold)
    (spawned : ticked.result.spawned = some id) :
    ∃ cell inside target,
      e.evidence.Corroborated site.evidencePlan.maskThreshold site.settings.spawnThreshold cell
          inside ∧
        e.spawning.2.watch.tracker.targets = e.watch.tracker.targets ++ [target] ∧
        target.id = id ∧ target.position = site.evidencePlan.tiling.centerOf cell ∧
        ticked.result.focus.value = e.evidence.total cell inside := by
  obtain ⟨strong, target, added, named, placed⟩ := does.of_spawned spawned
  obtain ⟨cell, inside, corroborated⟩ := Evidence.corroborated_of_reaches positive strong
  refine ⟨cell, inside, target, corroborated, added, named, ?_, ?_⟩
  · rw [placed, corroborated.placed]
  · rw [does.focus, corroborated.reported]

theorem Ticked.not_spawned (does : e.Ticked ticked) (positive : 0 < site.settings.spawnThreshold)
    {camera : String} (only : e.evidence.OnlyFrom camera) : ticked.result.spawned = none := by
  cases spawned : ticked.result.spawned with
  | none => rfl
  | some id =>
      obtain ⟨_, _, _, corroborated, _⟩ := does.corroborated positive spawned
      exact absurd corroborated (Evidence.not_corroborated_of_onlyFrom only)

theorem not_spawned_of_onlyFrom {camera : String} {commands : List (Command α)}
    {run : Step site (List (Reply site))} (positive : 0 < site.settings.spawnThreshold)
    (only : e.evidence.OnlyFrom camera) (done : e.performAll commands = .ok run)
    (own : ∀ name ray, .trace name ray ∈ site.gatheredAll (commands.zip run.result) →
      name = camera) :
    ∀ report, .ticked report ∈ run.result → report.spawned = none := by
  induction commands generalizing e run with
  | nil =>
      cases done
      intro report member
      cases member
  | cons command rest ih =>
      obtain ⟨step, others, one, later, rfl⟩ := performAll_cons_eq_ok.1 done
      have gathered := perform_gathered one
      have still : step.engine.evidence.OnlyFrom camera :=
        Evidence.onlyFrom_performAll only
          (fun name ray member => own name ray (List.mem_append_left _ member)) gathered
      intro report member
      rcases List.mem_cons.1 member with here | there
      · have effect := perform_effect one
        generalize command.deed site = deed at effect
        cases effect with
        | ray traced _ same =>
            subst same
            cases here
        | tick ticked does same =>
            subst same
            cases here
            exact does.not_spawned positive only
        | wait later after same =>
            subst same
            cases here
        | nothing _ _ noTick _ => exact absurd here.symm (noTick report)
      · exact ih still later
          (fun name ray member => own name ray (List.mem_append_right _ member)) report there

/-- In every state of every run of an engine with a positive threshold, a tick that sets a target
sets it at a corroborated cell; and a run whose gathered rays are all of one camera sets none. -/
theorem spawns_are_corroborated {settings : Settings α} {installation : Installation α}
    {first : Engine site} {commands : List (Command α)} {run : Step site (List (Reply site))}
    (made : Site.create settings installation = .ok site)
    (positive : 0 < settings.spawnThreshold) (created : Engine.create site = .ok first)
    (done : first.performAll commands = .ok run) :
    (∀ (ticked : Step site (TickReport α)) (id : TargetId), run.engine.tick = .ok ticked →
        ticked.result.spawned = some id →
          ∃ cell inside target,
            run.engine.evidence.Corroborated settings.maskThreshold settings.spawnThreshold cell
                inside ∧
              run.engine.spawning.2.watch.tracker.targets =
                run.engine.watch.tracker.targets ++ [target] ∧
              target.id = id ∧ target.position = site.evidencePlan.tiling.centerOf cell ∧
              ticked.result.focus.value = run.engine.evidence.total cell inside) ∧
      ∀ camera : String,
        (∀ name ray, .trace name ray ∈ site.gatheredAll (commands.zip run.result) →
          name = camera) →
        ∀ report, .ticked report ∈ run.result → report.spawned = none := by
  obtain ⟨sameSettings, sameMask⟩ := Site.create_eq_ok made
  rw [← sameSettings] at positive
  refine ⟨fun ticked id ticking spawned => ?_, fun camera own => ?_⟩
  · have corroborated := (tick_eq_ok ticking).corroborated positive spawned
    rwa [sameMask, sameSettings] at corroborated
  · have start := create_eq_ok created
    subst start
    exact not_spawned_of_onlyFrom positive (fun _ member => by cases member) done own

def agreeingRays : List (Command Float) := [.trace "a" firstCellRay, .trace "b" firstCellRay]

def lonelyRun : List (Command Float) :=
  [.trace "a" firstCellRay, .trace "a" firstCellRay, .trace "a" firstCellRay,
    .trace "a" firstCellRay, .tick]

theorem yard_created : Site.create yardSettings .empty = .ok yard := by
  rfl

theorem agreeingRays_corroborated :
    (∃ run ticked id cell inside, (start yard).performAll agreeingRays = .ok run ∧
      run.engine.tick = .ok ticked ∧ ticked.result.spawned = some id ∧
      run.engine.evidence.Corroborated yardSettings.maskThreshold yardSettings.spawnThreshold cell
        inside) ∧
    ∃ run, (start yard).performAll lonelyRun = .ok run ∧ run.engine.tally.ticks = 1 ∧
      ∀ report, .ticked report ∈ run.result → report.spawned = none := by
  have positive : 0 < yardSettings.spawnThreshold := by decide +kernel
  have agreeing : yields ((start yard).performAll agreeingRays) (fun run =>
      yields run.engine.tick fun ticked => ticked.result.spawned = some ⟨1⟩) = true := by
    decide +kernel
  have lonely : yields ((start yard).performAll lonelyRun) (fun run =>
      run.engine.tally.ticks == 1 &&
        (yard.gatheredAll (lonelyRun.zip run.result)).all fun
          | .trace name _ => name == "a"
          | .decay => true) = true := by
    decide +kernel
  refine ⟨?_, ?_⟩
  · obtain ⟨run, done, checked⟩ := yields_iff.1 agreeing
    obtain ⟨ticked, ticking, spawned⟩ := yields_iff.1 checked
    have spawned := of_decide_eq_true spawned
    obtain ⟨cell, inside, _, corroborated, _⟩ :=
      (spawns_are_corroborated yard_created positive rfl done).1 ticked ⟨1⟩ ticking spawned
    exact ⟨run, ticked, ⟨1⟩, cell, inside, done, ticking, spawned, corroborated⟩
  · obtain ⟨run, done, checked⟩ := yields_iff.1 lonely
    obtain ⟨counted, own⟩ := Bool.and_eq_true_iff.1 checked
    refine ⟨run, done, eq_of_beq counted, ?_⟩
    refine (spawns_are_corroborated yard_created positive rfl done).2 "a" fun name ray member => ?_
    exact eq_of_beq (List.all_eq_true.1 own _ member)

end Engine

end Sightline
