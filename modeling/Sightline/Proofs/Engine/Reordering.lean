import Sightline.Proofs.Engine.Factoring
import Sightline.Proofs.Engine.Sightings
import Sightline.Proofs.Tally.Counts

/-!
# The order of sightings

Between two ticks, and with no live target to claim any of them, rays and motion reports may come in
any order.  Each gets the answer that it gets in every other place, and together they leave one and
the same state: the evidence because the levels of a cell are iterates of one map, the tally because
counting commutes.
-/

set_option autoImplicit false

namespace Sightline

variable {α : Type} [Scalar α]

/-- A ray, or a motion report of a mounted camera. -/
def Command.Sights (site : Site α) : Command α → Prop
  | .trace .. => True
  | .motion camera _ => site.installation.camera? camera ≠ none
  | _ => False

namespace Site

variable (site : Site α)

/-- The ray that a command brings, with its camera, if both ends are finite. -/
def letIn (command : Command α) : List (String × Segment α) :=
  ((command.ray? site).filter fun sighted => sighted.2.isFinite).toList

/-- What a sighting is answered while no target is live: this takes no look at the state. -/
def answer (command : Command α) : Reply site :=
  match command.ray? site with
  | some (_, ray) =>
    match requireFiniteEnds ray .traceStart .traceStop with
    | .ok () => .traced (.ok .gathered)
    | .error fault => .traced (.error fault)
  | none => .traced (.error (.notFinite .motionAngle))

def sightingCounter (command : Command α) : Counter :=
  if (site.letIn command).isEmpty then .inputRejected else .rayGathered

def letInAll (commands : List (Command α)) : List (String × Segment α) :=
  commands.flatMap site.letIn

theorem traces_letInAll_cons (command : Command α) (later : List (Command α)) :
    EvidenceCommand.traces (site.letInAll (command :: later)) =
      EvidenceCommand.traces (site.letInAll [command]) ++
        EvidenceCommand.traces (site.letInAll later) := by
  simp [letInAll, EvidenceCommand.traces]

end Site

namespace Engine

variable {site : Site α} {e : Engine site} {commands others : List (Command α)}
  {run : Step site (List (Reply site))}

/-- What sightings do while no target is live: they are gathered, answered and counted, and leave all
else alone. -/
structure Sighted (e : Engine site) (commands : List (Command α))
    (run : Step site (List (Reply site))) : Prop where
  evidence : e.evidence.performAll (EvidenceCommand.traces (site.letInAll commands)) =
    .ok run.engine.evidence
  result : run.result = commands.map site.answer
  tally : run.engine.tally = e.tally.countAll (commands.map site.sightingCounter)
  tracker : run.engine.watch.tracker = e.watch.tracker
  now : run.engine.now = e.now
  quiet : run.engine.quiet = e.quiet

theorem Sighted.eq_of_perm {again : Step site (List (Reply site))} (permuted : commands.Perm others)
    (first : e.Sighted commands run) (second : e.Sighted others again) :
    again.engine = run.engine := by
  have evidence : again.engine.evidence = run.engine.evidence := by
    have one := first.evidence
    rw [Site.letInAll, Evidence.performAll_perm (permuted.flatMap_right site.letIn),
      ← Site.letInAll, second.evidence] at one
    exact Except.ok.inj one
  have tally : again.engine.watch.tally = run.engine.watch.tally := by
    have one := first.tally
    rw [Tally.countAll_perm (permuted.map site.sightingCounter), ← second.tally] at one
    exact one.symm
  have tracker := second.tracker.trans first.tracker.symm
  have now := second.now.trans first.now.symm
  have quiet := second.quiet.trans first.quiet.symm
  obtain ⟨_, ⟨_, ⟨trackerAgain, tallyAgain⟩, _, _⟩, _, _⟩ := again
  obtain ⟨_, ⟨_, ⟨trackerOnce, tallyOnce⟩, _, _⟩, _, _⟩ := run
  simp only at evidence tally tracker now quiet
  subst evidence tally tracker now quiet
  rfl

/-! ## One sighting -/

theorem perform_sights {command : Command α} (sights : command.Sights site) :
    (∃ camera ray, command.ray? site = some (camera, ray) ∧
        e.perform command = (do .ok ((← e.trace camera ray).map .traced))) ∨
      (command.ray? site = none ∧
        e.perform command =
          .ok ((e.count .inputRejected).silently (.traced (.error (.notFinite .motionAngle))))) := by
  cases command with
  | trace camera ray => exact .inl ⟨camera, ray, rfl, rfl⟩
  | motion camera angle =>
      cases finite : Scalar.isFinite angle with
      | false =>
          refine .inr ⟨?_, ?_⟩
          · cases found : site.installation.camera? camera with
            | none => exact absurd found sights
            | some own => simp [Command.ray?, Installation.ray, found, finite]
          · rw [perform, motion_of_infinite sights finite]
            rfl
      | true =>
          obtain ⟨ray, brings, same⟩ := motion_of_finite e sights finite
          refine .inl ⟨camera, ray, ?_, ?_⟩
          · rw [Command.ray?, brings]
          · rw [perform, same]
  | tick | advance | focus | heatmap | closest | tally | settings => cases sights

theorem sighted_of_rejection {command : Command α} {fault : Fault α} (notes : List (Note α))
    (shut : site.letIn command = []) (answered : site.answer command = .traced (.error fault)) :
    e.Sighted [command]
      (Step.alone ⟨.traced (.error fault), e.count .inputRejected, notes, []⟩) := by
  have counter : site.sightingCounter command = .inputRejected := by
    rw [Site.sightingCounter, shut]
    rfl
  refine ⟨?_, ?_, ?_, rfl, rfl, rfl⟩
  · rw [Site.letInAll, List.flatMap_singleton, shut]
    rfl
  · rw [List.map_singleton, answered]
    rfl
  · rw [List.map_singleton, counter]
    rfl

theorem sighted_of_gathering {command : Command α} {camera : String} {ray : Segment α}
    {evidence : Evidence site.evidencePlan} (finite : ray.isFinite = true)
    (brings : site.letIn command = [(camera, ray)])
    (answered : site.answer command = .traced (.ok .gathered))
    (added : e.evidence.addRay camera ray = .ok evidence) :
    e.Sighted [command] ((e.afterGathering evidence).map .traced).alone := by
  have counter : site.sightingCounter command = .rayGathered := by
    rw [Site.sightingCounter, brings]
    rfl
  refine ⟨?_, ?_, ?_, rfl, rfl, rfl⟩
  · rw [Site.letInAll, List.flatMap_singleton, brings, Evidence.performAll_trace_of_finite finite,
      added]
    rfl
  · rw [List.map_singleton, answered]
    rfl
  · rw [List.map_singleton, counter]
    rfl

/-- A sighting is answered whenever its ray, if it is let in, can be added. -/
theorem perform_sighting {command : Command α} (sights : command.Sights site)
    (idle : e.watch.tracker.targets = []) :
    (∀ evidence, e.evidence.performAll (EvidenceCommand.traces (site.letIn command)) = .ok evidence →
        ∃ step, e.perform command = .ok step) ∧
      ∀ step, e.perform command = .ok step → e.Sighted [command] step.alone := by
  have unclaimed : ∀ ray, Tracker.claim? e.watch.tracker.targets ray = none := by
    intro ray
    rw [idle]
    rfl
  rcases perform_sights (e := e) sights with ⟨camera, ray, brings, performed⟩ | ⟨brings, performed⟩
  · cases finite : ray.isFinite with
    | false =>
        have shut : site.letIn command = [] := by simp [Site.letIn, brings, finite]
        rcases requireFiniteEnds_cases ray .traceStart .traceStop with
          ⟨passed, _⟩ | ⟨_, refused | refused⟩
        · rw [finite] at passed
          cases passed
        all_goals
          rw [performed, trace_of_refused refused]
          refine ⟨fun _ _ => ⟨_, rfl⟩, fun step done => ?_⟩
          cases done
          refine sighted_of_rejection _ shut ?_
          simp only [Site.answer, brings, refused]
    | true =>
        have letIn : site.letIn command = [(camera, ray)] := by simp [Site.letIn, brings, finite]
        have passed := (requireFiniteEnds_eq_ok ray .traceStart .traceStop).2 finite
        rw [performed, trace_of_unclaimed finite (unclaimed ray), letIn,
          Evidence.performAll_trace_of_finite finite]
        refine ⟨fun evidence added => ?_, fun step done => ?_⟩
        · rw [added]
          exact ⟨_, rfl⟩
        · simp only [bind_eq_ok] at done
          obtain ⟨_, ⟨evidence, added, traced⟩, result⟩ := done
          cases traced
          cases result
          refine sighted_of_gathering finite letIn ?_ added
          simp only [Site.answer, brings, passed]
  · have shut : site.letIn command = [] := by simp [Site.letIn, brings]
    rw [performed]
    refine ⟨fun _ _ => ⟨_, rfl⟩, fun step done => ?_⟩
    cases done
    refine sighted_of_rejection _ shut ?_
    simp only [Site.answer, brings]

/-! ## Many sightings -/

theorem Sighted.append {command : Command α} {step : Step site (Reply site)}
    {later : Step site (List (Reply site))} (first : e.Sighted [command] step.alone)
    (rest : step.engine.Sighted commands later) :
    e.Sighted (command :: commands) (step.alone.append later) := by
  refine ⟨?_, ?_, ?_, rest.tracker.trans first.tracker, rest.now.trans first.now,
    rest.quiet.trans first.quiet⟩
  · rw [Site.traces_letInAll_cons]
    exact Evidence.performAll_append_eq_ok.2 ⟨_, first.evidence, rest.evidence⟩
  · rw [Step.append, first.result, rest.result]
    rfl
  · rw [Step.append, rest.tally]
    have one : step.engine.tally = _ := first.tally
    rw [one]
    rfl

theorem sighted_of_performAll (sights : ∀ command ∈ commands, command.Sights site)
    (idle : e.watch.tracker.targets = []) (done : e.performAll commands = .ok run) :
    e.Sighted commands run := by
  induction commands generalizing e run with
  | nil =>
      cases done
      exact ⟨rfl, rfl, rfl, rfl, rfl, rfl⟩
  | cons command rest ih =>
      obtain ⟨step, others, one, later, rfl⟩ := performAll_cons_eq_ok.1 done
      have first := (perform_sighting (sights command List.mem_cons_self) idle).2 step one
      have stillIdle : step.engine.watch.tracker.targets = [] := by
        have same : step.engine.watch.tracker = e.watch.tracker := first.tracker
        rw [same, idle]
      exact first.append
        (ih (fun other member => sights other (List.mem_cons_of_mem _ member)) stillIdle later)

/-- Sightings go through if their rays by themselves do. -/
theorem performAll_of_traces {evidence : Evidence site.evidencePlan}
    (sights : ∀ command ∈ commands, command.Sights site) (idle : e.watch.tracker.targets = [])
    (traced : e.evidence.performAll (EvidenceCommand.traces (site.letInAll commands)) =
      .ok evidence) :
    ∃ run, e.performAll commands = .ok run := by
  induction commands generalizing e with
  | nil => exact ⟨_, rfl⟩
  | cons command rest ih =>
      rw [Site.traces_letInAll_cons, Evidence.performAll_append_eq_ok] at traced
      obtain ⟨middle, one, later⟩ := traced
      obtain ⟨answers, sees⟩ := perform_sighting (sights command List.mem_cons_self) idle
      rw [Site.letInAll, List.flatMap_singleton] at one
      obtain ⟨step, done⟩ := answers middle one
      have first := sees step done
      have reached : step.engine.evidence = middle := by
        have evidence := first.evidence
        rw [Site.letInAll, List.flatMap_singleton, one] at evidence
        exact (Except.ok.inj evidence).symm
      have stillIdle : step.engine.watch.tracker.targets = [] := by
        have same : step.engine.watch.tracker = e.watch.tracker := first.tracker
        rw [same, idle]
      rw [← reached] at later
      obtain ⟨others, rest⟩ :=
        ih (fun other member => sights other (List.mem_cons_of_mem _ member)) stillIdle later
      exact ⟨_, performAll_cons_eq_ok.2 ⟨step, others, done, rest, rfl⟩⟩

end Engine

/-- The order of rays does not show in the evidence that they leave, down to the last bit: each cell
has grown by the increment as often as it was hit, whichever hit came first.  Nor does the order of
sightings show in what an engine without live targets answers to each of them or in the state that it
reaches, tally and next tick included. -/
theorem order_of_sightings_is_irrelevant :
    (∀ (plan : EvidencePlan α) (e : Evidence plan) (rays others : List (String × Segment α)),
      rays.Perm others →
        e.performAll (EvidenceCommand.traces rays) = e.performAll (EvidenceCommand.traces others) ∧
          ∀ after, e.performAll (EvidenceCommand.traces rays) = .ok after →
            e.Gathers after rays) ∧
      ∀ (site : Site α) (e : Engine site) (commands others : List (Command α))
          (run : Step site (List (Reply site))),
        commands.Perm others → (∀ command ∈ commands, command.Sights site) →
          e.watch.tracker.targets = [] → e.performAll commands = .ok run →
            ∃ again, e.performAll others = .ok again ∧
              run.result = commands.map site.answer ∧ again.result = others.map site.answer ∧
              again.engine = run.engine := by
  refine ⟨fun plan e rays others permuted => ?_, ?_⟩
  · exact ⟨Evidence.performAll_perm permuted e, fun after => Evidence.gathers_of_performAll⟩
  · intro site e commands others run permuted sights idle done
    have first := Engine.sighted_of_performAll sights idle done
    have sightsToo : ∀ command ∈ others, command.Sights site := fun command member =>
      sights command (permuted.mem_iff.2 member)
    have traced := first.evidence
    rw [Site.letInAll, Evidence.performAll_perm (permuted.flatMap_right site.letIn)] at traced
    obtain ⟨again, doneToo⟩ := Engine.performAll_of_traces sightsToo idle traced
    have second := Engine.sighted_of_performAll sightsToo idle doneToo
    exact ⟨again, doneToo, first.result, second.result, first.eq_of_perm permuted second⟩

/-- The yard with a camera at its lower edge. -/
def mannedYard : Site Float :=
  { yard with installation := ⟨Directory.empty.insert "c" ⟨"c", none, ⟨⟨1, 0⟩, ⟨0.5, 0⟩⟩⟩, none⟩ }

/-- Rays of two cameras, with a report between them whose angle is no number. -/
def mixedSightings : List (Command Float) :=
  [.trace "a" firstCellRay, .motion "c" (0 / 0), .trace "b" firstCellRay, .trace "a" secondCellRay]

theorem mixedSightings_reversed : ∃ run again,
    (Engine.start mannedYard).performAll mixedSightings = .ok run ∧
      (Engine.start mannedYard).performAll mixedSightings.reverse = .ok again ∧
      run.engine.tally.rayGathered = 3 ∧ run.engine.tally.inputRejected = 1 ∧
      again.engine = run.engine ∧
      ∃ after, (Evidence.none : Evidence yard.evidencePlan).performAll
          (EvidenceCommand.traces [("a", firstCellRay), ("b", firstCellRay)]) = .ok after ∧
        Evidence.none.performAll
          (EvidenceCommand.traces [("b", firstCellRay), ("a", firstCellRay)]) = .ok after ∧
        Evidence.none.Gathers after [("a", firstCellRay), ("b", firstCellRay)] := by
  have counted : yields ((Engine.start mannedYard).performAll mixedSightings) (fun run =>
      run.engine.tally.rayGathered = 3 ∧ run.engine.tally.inputRejected = 1) = true := by
    decide +kernel
  have traced : yields ((Evidence.none : Evidence yard.evidencePlan).performAll
      (EvidenceCommand.traces [("a", firstCellRay), ("b", firstCellRay)])) (fun _ => true) = true := by
    decide +kernel
  have sights : ∀ command ∈ mixedSightings, command.Sights mannedYard := by
    intro command member
    simp only [mixedSightings, List.mem_cons, List.not_mem_nil, or_false] at member
    rcases member with rfl | rfl | rfl | rfl
    · exact trivial
    · exact Option.some_ne_none _
    · exact trivial
    · exact trivial
  obtain ⟨run, done, counts⟩ := yields_iff.1 counted
  obtain ⟨after, gathered, _⟩ := yields_iff.1 traced
  obtain ⟨gathering, rejecting⟩ := of_decide_eq_true counts
  obtain ⟨grids, engines⟩ := order_of_sightings_is_irrelevant (α := Float)
  obtain ⟨again, doneToo, _, _, same⟩ := engines mannedYard (Engine.start mannedYard) mixedSightings
    mixedSightings.reverse run (List.reverse_perm mixedSightings).symm sights rfl done
  obtain ⟨alike, levels⟩ := grids yard.evidencePlan .none
    [("a", firstCellRay), ("b", firstCellRay)] [("b", firstCellRay), ("a", firstCellRay)] (.swap _ _ [])
  exact ⟨run, again, done, doneToo, gathering, rejecting, same, after, gathered,
    alike ▸ gathered, levels after gathered⟩

end Sightline
