import Sightline.Engine.Command
import Sightline.Proofs.Tracker.Ledger

/-!
# What a command does to evidence, targets and clock

A command lets a ray in, ticks, waits, or leaves evidence, targets and clock alone; `Effect` says
for each of these everything that a successful step does.  What follows reads steps off it.
-/

set_option autoImplicit false

namespace Sightline

variable {α : Type} [Scalar α]

/-! ## Accounted rules -/

namespace Tracker

def mergedOnce (t : Tracker α) (plan : TrackerPlan α) : Tracker α :=
  ((t.merge? plan).map (·.2)).getD t

theorem mergedOnce_of_few {t : Tracker α} (few : t.targets.length ≤ 1) (plan : TrackerPlan α) :
    t.mergedOnce plan = t := by
  cases merged : t.merge? plan with
  | none => simp [mergedOnce, merged]
  | some result =>
      obtain ⟨first, second, found, _⟩ := merge?_eq_some merged
      obtain ⟨firstAt, secondAt, apart, _⟩ := overlappingPair?_eq_some found
      have firstInside := (List.getElem?_eq_some_iff.1 firstAt).1
      have secondInside := (List.getElem?_eq_some_iff.1 secondAt).1
      omega

end Tracker

namespace Watch

variable {w : Watch α} {plan : TrackerPlan α} {now : Instant}

omit [Scalar α] in
theorem tracker_foldl_count (counter : Counter) (ids : List TargetId) :
    (ids.foldl (fun counted _ => counted.count counter) w).tracker = w.tracker := by
  induction ids generalizing w with
  | nil => rfl
  | cons id rest ih => exact ih

theorem offer_eq_ok {ray : Segment α} {claimed : Bool} {after : Watch α}
    (offered : w.offer plan now ray = .ok (claimed, after)) :
    w.tracker.offer plan now ray = .ok (claimed, after.tracker) := by
  simp only [offer, bind_eq_ok] at offered
  obtain ⟨⟨_, tracker⟩, asked, result⟩ := offered
  cases result
  exact asked

theorem result_merge : (w.merge plan).result = (w.tracker.merge? plan).map (·.1) := by
  unfold merge
  cases w.tracker.merge? plan <;> rfl

theorem tracker_merge : (w.merge plan).watch.tracker = w.tracker.mergedOnce plan := by
  unfold merge Tracker.mergedOnce
  cases w.tracker.merge? plan <;> rfl

theorem expire_eq_ok {expired : Watched α (List TargetId)} (done : w.expire now = .ok expired) :
    w.tracker.expire now = .ok (expired.result, expired.watch.tracker) := by
  simp only [expire, bind_eq_ok] at done
  obtain ⟨⟨gone, tracker⟩, sifted, result⟩ := done
  cases result
  rw [sifted, tracker_foldl_count, gauge]

theorem spawn_eq_ok {candidate : Point α} {spawned : Watched α (Option TargetId)}
    (done : w.spawn plan now candidate = .ok spawned) :
    ∃ verdict, w.tracker.spawn plan now candidate = .ok (verdict, spawned.watch.tracker) ∧
      spawned.result = verdict.id? := by
  simp only [spawn, bind_eq_ok] at done
  obtain ⟨⟨verdict, tracker⟩, tried, result⟩ := done
  have unchanged : verdict.id? = none → tracker = w.tracker := by
    intro none
    rcases Tracker.spawn_eq_ok tried with ⟨_, same⟩ | ⟨rfl, _⟩
    · exact same
    · cases none
  cases verdict with
  | underCamera =>
      cases result
      exact ⟨.underCamera, unchanged rfl ▸ tried, rfl⟩
  | onTarget =>
      cases result
      exact ⟨.onTarget, unchanged rfl ▸ tried, rfl⟩
  | spawned id =>
      cases result
      exact ⟨.spawned id, tried, rfl⟩

theorem spawn_eq_error {candidate : Point α} {fault : Fault α}
    (refused : w.spawn plan now candidate = .error fault) :
    w.tracker.spawn plan now candidate = .error fault := by
  cases tried : w.tracker.spawn plan now candidate with
  | error other =>
      rw [spawn, tried] at refused
      cases refused
      rfl
  | ok spawned =>
      obtain ⟨verdict, tracker⟩ := spawned
      rw [spawn, tried] at refused
      cases verdict <;> cases refused

end Watch

namespace Engine

variable {site : Site α} {e : Engine site}

/-! ## Rays -/

inductive Accepted (e : Engine site) (camera : String) (ray : Segment α)
    (step : Step site (Except (Fault α) RayOutcome)) : Prop
  | claimed
      (offered : e.watch.tracker.offer site.trackerPlan e.now ray =
        .ok (true, step.engine.watch.tracker))
      (evidence : step.engine.evidence = e.evidence)
      (now : step.engine.now = e.now)
      (result : step.result = .ok .claimed)
      (published : step.published = [step.engine.targets])
  | gathered
      (offered : e.watch.tracker.offer site.trackerPlan e.now ray =
        .ok (false, step.engine.watch.tracker))
      (traced : e.evidence.trace camera ray = .ok (.ok step.engine.evidence))
      (now : step.engine.now = e.now)
      (result : step.result = .ok .gathered)
      (published : step.published = [step.engine.targets])

theorem accept_eq_ok {camera : String} {ray : Segment α}
    {step : Step site (Except (Fault α) RayOutcome)} (finite : ray.isFinite = true)
    (done : e.accept camera ray = .ok step) : Accepted e camera ray step := by
  have letIn : ∀ start stop, requireFiniteEnds ray start stop = .ok () := fun start stop =>
    (requireFiniteEnds_eq_ok ray start stop).2 finite
  unfold accept at done
  split at done
  · rename_i fault refused
    simp only [Watch.offer, Tracker.offer, letIn] at refused
    cases refused
  · rename_i watch offered
    have asked := Watch.offer_eq_ok offered
    cases done
    exact .claimed asked rfl rfl rfl rfl
  · rename_i watch offered
    have asked := Watch.offer_eq_ok offered
    simp only [bind_eq_ok] at done
    obtain ⟨traced, tracedEq, result⟩ := done
    cases traced with
    | error fault =>
        simp only [Evidence.trace, letIn, bind_eq_ok] at tracedEq
        obtain ⟨_, _, impossible⟩ := tracedEq
        cases impossible
    | ok evidence =>
        cases result
        exact .gathered asked tracedEq rfl rfl rfl

theorem trace_of_finite {camera : String} {ray : Segment α} (finite : ray.isFinite = true) :
    e.trace camera ray = e.accept camera ray := by
  rw [trace, (requireFiniteEnds_eq_ok ray _ _).2 finite]

structure Unmoved (e after : Engine site) : Prop where
  evidence : after.evidence = e.evidence
  tracker : after.watch.tracker = e.watch.tracker
  now : after.now = e.now

theorem trace_of_not_finite {camera : String} {ray : Segment α}
    {step : Step site (Except (Fault α) RayOutcome)} (infinite : ray.isFinite = false)
    (done : e.trace camera ray = .ok step) :
    e.Unmoved step.engine ∧ (∃ fault, step.result = .error fault) ∧ step.published = [] := by
  rcases requireFiniteEnds_cases ray .traceStart .traceStop with ⟨finite, _⟩ | ⟨_, refused | refused⟩
  · rw [infinite] at finite
    cases finite
  all_goals
    rw [trace, refused] at done
    cases done
    exact ⟨⟨rfl, rfl, rfl⟩, ⟨_, rfl⟩, rfl⟩

theorem motion_of_ray {camera : String} {angle : α} {ray : Segment α}
    (mounted : site.installation.ray camera angle site.settings.rayLength = .ok ray) :
    e.motion camera angle = e.trace camera ray := by
  rw [motion, mounted]

theorem motion_of_error {camera : String} {angle : α} {fault : Fault α}
    {step : Step site (Except (Fault α) RayOutcome)}
    (refused : site.installation.ray camera angle site.settings.rayLength = .error fault)
    (done : e.motion camera angle = .ok step) :
    e.Unmoved step.engine ∧ (∃ fault, step.result = .error fault) ∧ step.published = [] := by
  rw [motion, refused] at done
  cases fault <;> cases done <;> exact ⟨⟨rfl, rfl, rfl⟩, ⟨_, rfl⟩, rfl⟩

/-! ## Ticks -/

theorem spawning_fst : e.spawning.1 = e.evidence.brightest := e.evidence.focus_fst _

theorem spawnAt_cases (w : Watch α) (now : Instant) (focus : Focus α) :
    (¬ site.settings.spawnThreshold ≤ focus.value ∧
        (spawnAt w site now focus).result = none ∧
        (spawnAt w site now focus).watch.tracker = w.tracker) ∨
      (site.settings.spawnThreshold ≤ focus.value ∧
        ((∃ fault, w.tracker.spawn site.trackerPlan now focus.position = .error fault ∧
            (spawnAt w site now focus).result = none ∧
            (spawnAt w site now focus).watch.tracker = w.tracker) ∨
          ∃ verdict, w.tracker.spawn site.trackerPlan now focus.position =
              .ok (verdict, (spawnAt w site now focus).watch.tracker) ∧
            (spawnAt w site now focus).result = verdict.id?)) := by
  unfold spawnAt
  split
  · rename_i strong
    refine .inr ⟨strong, ?_⟩
    split
    · rename_i spawned
      exact .inr (Watch.spawn_eq_ok spawned)
    · rename_i refused
      exact .inl ⟨_, Watch.spawn_eq_error refused, rfl, rfl⟩
  · rename_i weak
    exact .inl ⟨weak, rfl, rfl⟩

theorem spawning_cases :
    (¬ site.settings.spawnThreshold ≤ e.evidence.brightest.value ∧
        e.spawning.2.result = none ∧ e.spawning.2.watch.tracker = e.watch.tracker) ∨
      (site.settings.spawnThreshold ≤ e.evidence.brightest.value ∧
        ((∃ fault,
            e.watch.tracker.spawn site.trackerPlan e.now e.evidence.brightest.position =
                .error fault ∧
              e.spawning.2.result = none ∧ e.spawning.2.watch.tracker = e.watch.tracker) ∨
          ∃ verdict,
            e.watch.tracker.spawn site.trackerPlan e.now e.evidence.brightest.position =
                .ok (verdict, e.spawning.2.watch.tracker) ∧
              e.spawning.2.result = verdict.id?)) := by
  rw [← spawning_fst (e := e)]
  exact spawnAt_cases ⟨e.watch.tracker, (e.evidence.focus (e.watch.count .ticks).tally).2⟩ e.now _

structure Ticked (e : Engine site) (step : Step site (TickReport α)) : Prop where
  focus : step.result.focus = e.evidence.brightest
  spawned : step.result.spawned = e.spawning.2.result
  merged : step.result.merged =
    (e.spawning.2.watch.tracker.merge? site.trackerPlan).map (·.1)
  expired : (e.spawning.2.watch.tracker.mergedOnce site.trackerPlan).expire e.now =
    .ok (step.result.expired, step.engine.watch.tracker)
  evidence : step.engine.evidence = e.evidence.decay
  now : step.engine.now = e.now
  published : step.published = [step.engine.targets]

theorem tick_eq_ok {step : Step site (TickReport α)} (done : e.tick = .ok step) :
    e.Ticked step := by
  simp only [tick, bind_eq_ok] at done
  obtain ⟨expired, expiring, result⟩ := done
  have sifted := Watch.expire_eq_ok expiring
  rw [Watch.tracker_merge] at sifted
  cases result
  exact ⟨spawning_fst, rfl, Watch.result_merge, sifted, rfl, rfl, rfl⟩

end Engine

/-! ## Commands -/

inductive Deed (α : Type) where
  | ray (camera : String) (ray : Segment α)
  | tick
  | wait (time : Duration)
  /-- Nothing but a look at things, or a refusal. -/
  | nothing

def Deed.ofRay : Option (String × Segment α) → Deed α
  | some (camera, segment) => if segment.isFinite then .ray camera segment else .nothing
  | none => .nothing

def Command.deed (site : Site α) : Command α → Deed α
  | .tick => .tick
  | .advance time => .wait time
  | command => .ofRay (command.ray? site)

/-- A command brings a ray with finite ends. -/
def Command.Brings (site : Site α) (command : Command α) (ray : Segment α) : Prop :=
  ∃ camera, command.ray? site = some (camera, ray) ∧ ray.isFinite = true

theorem Deed.ofRay_eq_ray {sighted : Option (String × Segment α)} {camera : String}
    {ray : Segment α} :
    Deed.ofRay sighted = .ray camera ray ↔ sighted = some (camera, ray) ∧ ray.isFinite = true := by
  unfold Deed.ofRay
  constructor
  · intro same
    split at same
    · split at same
      · cases same
        exact ⟨rfl, ‹_›⟩
      · cases same
    · cases same
  · rintro ⟨rfl, finite⟩
    exact if_pos finite

theorem Command.brings_iff {site : Site α} {command : Command α} {ray : Segment α} :
    command.Brings site ray ↔ ∃ camera, command.deed site = .ray camera ray := by
  have deed : ∀ camera, command.deed site = .ray camera ray ↔
      command.ray? site = some (camera, ray) ∧ ray.isFinite = true := by
    intro camera
    rw [← Deed.ofRay_eq_ray]
    cases command with
    | tick | advance =>
        constructor
        · intro same
          cases same
        · intro same
          cases same
    | _ => rfl
  simp only [Brings, deed]

namespace Engine

variable {site : Site α} {e : Engine site}

/-- What a command does, by what it comes to. -/
inductive Effect (e : Engine site) (step : Step site (Reply site)) : Deed α → Prop
  | ray {camera : String} {ray : Segment α} (traced : Step site (Except (Fault α) RayOutcome))
      (accepted : e.Accepted camera ray traced) (same : step = traced.map .traced) :
      Effect e step (.ray camera ray)
  | tick (ticked : Step site (TickReport α)) (does : e.Ticked ticked)
      (same : step = ticked.map .ticked) : Effect e step .tick
  | wait {time : Duration} (later : Instant) (after : e.now.after time = .ok later)
      (same : step = { e with now := later }.silently .advanced) : Effect e step (.wait time)
  | nothing (unmoved : e.Unmoved step.engine)
      (noRay : ∀ outcome, step.result ≠ .traced (.ok outcome))
      (noTick : ∀ report, step.result ≠ .ticked report)
      (silent : step.published = []) : Effect e step .nothing

theorem effect_of_trace {camera : String} {ray : Segment α}
    {traced : Step site (Except (Fault α) RayOutcome)} (done : e.trace camera ray = .ok traced) :
    e.Effect (traced.map .traced) (.ofRay (some (camera, ray))) := by
  rw [Deed.ofRay]
  split
  · rename_i finite
    rw [trace_of_finite finite] at done
    exact .ray traced (accept_eq_ok finite done) rfl
  · rename_i infinite
    obtain ⟨unmoved, ⟨fault, refused⟩, silent⟩ :=
      trace_of_not_finite (Bool.eq_false_iff.2 infinite) done
    refine .nothing unmoved (fun outcome same => ?_) (fun report same => ?_) silent
    · simp [Step.map, refused] at same
    · simp [Step.map] at same

theorem perform_effect {command : Command α} {step : Step site (Reply site)}
    (done : e.perform command = .ok step) : e.Effect step (command.deed site) := by
  cases command with
  | trace camera ray =>
      simp only [perform, bind_eq_ok] at done
      obtain ⟨traced, tracing, result⟩ := done
      cases result
      exact effect_of_trace tracing
  | motion camera angle =>
      simp only [perform, bind_eq_ok] at done
      obtain ⟨traced, moving, result⟩ := done
      cases result
      cases mounted : site.installation.ray camera angle site.settings.rayLength with
      | ok ray =>
          rw [motion_of_ray mounted] at moving
          simpa [Command.deed, Command.ray?, mounted] using effect_of_trace moving
      | error fault =>
          obtain ⟨unmoved, ⟨fault, refused⟩, silent⟩ := motion_of_error mounted moving
          simp only [Command.deed, Command.ray?, mounted, Deed.ofRay]
          refine .nothing unmoved (fun outcome same => ?_) (fun report same => ?_) silent
          · simp [Step.map, refused] at same
          · simp [Step.map] at same
  | tick =>
      simp only [perform, bind_eq_ok] at done
      obtain ⟨ticked, ticking, result⟩ := done
      cases result
      exact .tick ticked (tick_eq_ok ticking) rfl
  | advance time =>
      simp only [perform, advance, bind_eq_ok] at done
      obtain ⟨_, ⟨later, after, moved⟩, result⟩ := done
      cases moved
      cases result
      exact .wait later after rfl
  | focus | heatmap | closest | tally | settings =>
      cases done
      refine .nothing ⟨rfl, rfl, rfl⟩ (fun outcome same => ?_) (fun report same => ?_) rfl
      · cases same
      · cases same

end Engine

end Sightline
