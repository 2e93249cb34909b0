import Sightline.Proofs.Engine.Lifetimes
import Sightline.Proofs.Engine.Sites
import Sightline.Proofs.Evidence.Room

/-!
# What makes a run abort

A command fails only if it waits too long, if a live target would stay beyond the last instant, or if
its ray finds no room inside the rectangle.  A clock that stays a time to live short of the last
instant rules out the first two; so whether a run aborts is decided by its rectangle and its rays.
-/

set_option autoImplicit false

namespace Sightline

/-! ## Time -/

namespace Instant

def Reaches (t : Instant) (d : Duration) : Prop :=
  (t.nanos + d.nanos) / Duration.perSecond < secondsEnd

theorem Reaches.after {t : Instant} {d : Duration} (reaches : t.Reaches d) :
    t.after d = .ok ⟨t.nanos + d.nanos⟩ :=
  if_pos reaches

theorem Reaches.mono {t earlier : Instant} {d shorter : Duration} (reaches : t.Reaches d)
    (less : earlier.nanos + shorter.nanos ≤ t.nanos + d.nanos) : earlier.Reaches shorter :=
  Nat.lt_of_le_of_lt (Nat.div_le_div_right less) reaches

end Instant

namespace Command

variable {α : Type}

def pause : Command α → Duration
  | .advance time => time
  | _ => ⟨0⟩

/-- What the clock of an engine shows after commands. -/
def clockAfter (commands : List (Command α)) : Instant :=
  ⟨(commands.map fun command => command.pause.nanos).sum⟩

end Command

def Deed.pause {α : Type} : Deed α → Duration
  | .wait time => time
  | _ => ⟨0⟩

variable {α : Type} [Scalar α]

theorem Deed.pause_ofRay (sighted : Option (String × Segment α)) :
    (Deed.ofRay sighted).pause = ⟨0⟩ := by
  unfold Deed.ofRay
  split
  · split <;> rfl
  · rfl

theorem Command.pause_deed (site : Site α) (command : Command α) :
    (command.deed site).pause = command.pause := by
  cases command with
  | trace camera ray => exact Deed.pause_ofRay (ray? site (.trace camera ray))
  | motion camera angle => exact Deed.pause_ofRay (ray? site (.motion camera angle))
  | _ => rfl

namespace Tracker

omit [Scalar α] in
theorem exists_sift (now : Instant) {targets : List (Tracked α)}
    (reaches : ∀ target ∈ targets, target.refreshed.Reaches target.ttl) :
    ∃ sifted, sift now targets = .ok sifted := by
  induction targets with
  | nil => exact ⟨_, rfl⟩
  | cons target later ih =>
      obtain ⟨sifted, rest⟩ := ih fun other member => reaches other (List.mem_cons_of_mem _ member)
      have last := (reaches target List.mem_cons_self).after
      rw [sift, Target.isExpired, Target.expiry, last, rest]
      exact ⟨_, (apply_ite Except.ok _ _ _).symm⟩

omit [Scalar α] in
theorem exists_expire (now : Instant) {t : Tracker α}
    (reaches : ∀ target ∈ t.targets, target.refreshed.Reaches target.ttl) :
    ∃ expired, t.expire now = .ok expired := by
  obtain ⟨sifted, done⟩ := exists_sift now reaches
  rw [expire, done]
  exact ⟨_, rfl⟩

end Tracker

theorem Watch.exists_expire (now : Instant) {w : Watch α}
    (reaches : ∀ target ∈ w.tracker.targets, target.refreshed.Reaches target.ttl) :
    ∃ expired, w.expire now = .ok expired := by
  obtain ⟨expired, done⟩ := Tracker.exists_expire now reaches
  rw [expire, done]
  exact ⟨_, rfl⟩

/-! ## Rays -/

theorem Evidence.exists_trace {plan : EvidencePlan α} (e : Evidence plan) (camera : String)
    {ray : Segment α} (room : ¬ plan.tiling.Blocks ray) :
    ∃ traced, e.trace camera ray = .ok traced := by
  cases finite : ray.isFinite with
  | false =>
      obtain ⟨fault, refused⟩ := e.trace_of_infinite camera finite
      exact ⟨_, refused⟩
  | true =>
      obtain ⟨after, drawn, _⟩ := e.perform_trace_of_open camera room
      rw [perform_trace_of_finite finite] at drawn
      rw [e.trace_of_finite camera finite, drawn]
      exact ⟨_, rfl⟩

namespace Engine

variable {site : Site α} {e first : Engine site} {commands : List (Command α)}
  {run : Step site (List (Reply site))}

theorem exists_accept (camera : String) {ray : Segment α}
    (room : ¬ site.evidencePlan.tiling.Blocks ray) : ∃ step, e.accept camera ray = .ok step := by
  unfold accept
  split
  · exact ⟨_, rfl⟩
  · exact ⟨_, rfl⟩
  · obtain ⟨traced, done⟩ := e.evidence.exists_trace camera room
    rw [done]
    cases traced <;> exact ⟨_, rfl⟩

theorem exists_trace (camera : String) {ray : Segment α}
    (room : ray.isFinite = true → ¬ site.evidencePlan.tiling.Blocks ray) :
    ∃ step, e.trace camera ray = .ok step := by
  cases finite : ray.isFinite with
  | true =>
      rw [trace_of_finite finite]
      exact exists_accept camera (room finite)
  | false =>
      rcases requireFiniteEnds_cases ray .traceStart .traceStop with
        ⟨finiteToo, _⟩ | ⟨_, refused | refused⟩
      · rw [finite] at finiteToo
        cases finiteToo
      all_goals
        rw [trace, refused]
        exact ⟨_, rfl⟩

/-! ## Ticks -/

theorem exists_tick
    (reaches : ∀ target ∈ (e.spawning.2.watch.tracker.mergedOnce site.trackerPlan).targets,
      target.refreshed.Reaches target.ttl) : ∃ ticked, e.tick = .ok ticked := by
  rw [← Watch.tracker_merge] at reaches
  obtain ⟨expired, done⟩ := Watch.exists_expire e.now reaches
  simp only [tick, done]
  exact ⟨_, rfl⟩

/-! ## Commands -/

/-- A command is carried out if its ray finds room, its wait ends in time, and every live target has
a last instant. -/
theorem exists_perform {lives : List Life} {command : Command α}
    (remembers : Lookout.Remembers site.trackerPlan e.lookout lives)
    (room : ∀ ray, command.Brings site ray → ¬ site.evidencePlan.tiling.Blocks ray)
    (pauses : e.now.Reaches command.pause) (stays : e.now.Reaches site.trackerPlan.ttl) :
    ∃ step, e.perform command = .ok step := by
  have letIn : ∀ camera ray, command.ray? site = some (camera, ray) →
      ∃ traced, e.trace camera ray = .ok traced := fun camera ray brings =>
    exists_trace camera fun finite => room ray ⟨camera, brings, finite⟩
  cases command with
  | trace camera ray =>
      obtain ⟨traced, done⟩ := letIn camera ray rfl
      rw [perform, done]
      exact ⟨_, rfl⟩
  | motion camera angle =>
      cases mounted : site.installation.ray camera angle site.settings.rayLength with
      | ok ray =>
          obtain ⟨traced, done⟩ := letIn camera ray (by simp [Command.ray?, mounted])
          rw [perform, motion_of_ray mounted, done]
          exact ⟨_, rfl⟩
      | error fault =>
          rw [perform, motion, mounted]
          cases fault <;> exact ⟨_, rfl⟩
  | tick =>
      obtain ⟨noted, merging⟩ := remembers_mergedOnce remembers
      have reaches : ∀ target ∈
          (e.spawning.2.watch.tracker.mergedOnce site.trackerPlan).targets,
            target.refreshed.Reaches target.ttl := by
        intro target live
        rw [merging.ttl live]
        exact stays.mono (Nat.add_le_add_right (merging.refreshed_le live) _)
      obtain ⟨ticked, done⟩ := exists_tick reaches
      rw [perform, done]
      exact ⟨_, rfl⟩
  | advance time =>
      have after : e.now.after time = _ := pauses.after
      rw [perform, advance, after]
      exact ⟨_, rfl⟩
  | focus | heatmap | closest | tally | settings => exact ⟨_, rfl⟩

theorem Effect.now {step : Step site (Reply site)} {deed : Deed α} (effect : e.Effect step deed) :
    step.engine.now.nanos = e.now.nanos + deed.pause.nanos := by
  cases effect with
  | ray traced accepted same =>
      subst same
      cases accepted with
      | claimed _ _ now _ _ | gathered _ _ now _ _ => exact congrArg Instant.nanos now
  | tick ticked does same =>
      subst same
      exact congrArg Instant.nanos does.now
  | wait later after same =>
      subst same
      exact congrArg Instant.nanos (Instant.after_eq_ok after)
  | nothing unmoved _ _ _ => exact congrArg Instant.nanos unmoved.now

theorem now_perform {command : Command α} {step : Step site (Reply site)}
    (done : e.perform command = .ok step) :
    step.engine.now.nanos = e.now.nanos + command.pause.nanos := by
  rw [(perform_effect done).now, command.pause_deed]

theorem now_performAll (done : e.performAll commands = .ok run) :
    run.engine.now.nanos = e.now.nanos + (Command.clockAfter commands).nanos := by
  induction commands generalizing e run with
  | nil =>
      cases done
      rfl
  | cons command rest ih =>
      obtain ⟨step, others, one, later, rfl⟩ := performAll_cons_eq_ok.1 done
      have total : (Command.clockAfter (command :: rest)).nanos =
          command.pause.nanos + (Command.clockAfter rest).nanos := List.sum_cons
      change others.engine.now.nanos = _
      rw [ih later, now_perform one, total, Nat.add_assoc]

/-! ## Runs -/

/-- A run is carried out to its end if all of its rays find room and its waits leave a time to live
before the last instant. -/
theorem exists_performAll (created : Engine.create site = .ok first)
    (room : ∀ command ∈ commands, ∀ ray, command.Brings site ray →
      ¬ site.evidencePlan.tiling.Blocks ray)
    (inTime : (Command.clockAfter commands).Reaches site.trackerPlan.ttl) :
    ∃ run, first.performAll commands = .ok run := by
  have start := create_eq_ok created
  subst start
  induction commands using List.reverseRecOn with
  | nil => exact ⟨_, rfl⟩
  | append_singleton earlier command ih =>
      have total : (Command.clockAfter (earlier ++ [command])).nanos =
          (Command.clockAfter earlier).nanos + command.pause.nanos := by
        simp [Command.clockAfter]
      obtain ⟨reached, before⟩ := ih
        (fun other member => room other (List.mem_append_left _ member)) (inTime.mono (by omega))
      have now : reached.engine.now.nanos = 0 + (Command.clockAfter earlier).nanos :=
        now_performAll before
      obtain ⟨_, _, _, replayed, _⟩ := performAll_asked before
      have remembers := (Lookout.remembers_start site.trackerPlan).recordAll replayed
      obtain ⟨step, one⟩ := exists_perform remembers (room command (by simp))
        (inTime.mono (by omega)) (inTime.mono (by omega))
      exact ⟨_, performAll_append_eq_ok.2 ⟨reached, _, before,
        performAll_cons_eq_ok.2 ⟨step, _, one, rfl, rfl⟩, rfl⟩⟩

end Engine

/-! ## Rectangles whose sides overflow -/

namespace Evidence

variable {plan : EvidencePlan α} {e after : Evidence plan} {camera : String} {ray : Segment α}

theorem not_blocks_of_trace (traced : e.trace camera ray = .ok (.ok after)) :
    ¬ plan.tiling.Blocks ray := by
  intro blocked
  have aborted : e.perform (.trace camera ray) = _ := perform_trace_of_blocked blocked
  rw [perform, traced] at aborted
  cases aborted

end Evidence

namespace Engine

variable {site : Site Float} {e first : Engine site} {commands : List (Command Float)}
  {run : Step site (List (Reply site))}

/-- Where both sides overflow, a command that is carried out brings no ray, and sets no target. -/
theorem perform_of_overflow {command : Command Float} {step : Step site (Reply site)}
    (countable : site.evidencePlan.tiling.Countable)
    (overflow : site.evidencePlan.tiling.bounds.hasFiniteSide = false)
    (none : e.watch.tracker.targets = []) (done : e.perform command = .ok step) :
    (∀ ray, ¬ command.Brings site ray) ∧
      step.engine.watch.tracker.targets = [] := by
  have effect := perform_effect done
  simp only [Command.brings_iff, not_exists]
  generalize command.deed site = deed at effect
  cases effect with
  | ray traced accepted same =>
      exfalso
      cases accepted with
      | claimed offered _ _ _ _ =>
          obtain ⟨target, live, _⟩ := (Tracker.claimed_iff offered).1 rfl
          rw [none] at live
          cases live
      | gathered offered gathering _ _ _ =>
          have finite := Tracker.isFinite_of_offer offered
          have noRoom := site.evidencePlan.tiling.not_hasRoom_of_overflow countable overflow
          exact Evidence.not_blocks_of_trace gathering
            (Tiling.blocks_of_not_hasRoom noRoom finite)
  | tick ticked does same =>
      subst same
      refine ⟨fun ray camera same => (by cases same), ?_⟩
      have unspawned : e.spawning.2.watch.tracker = e.watch.tracker := by
        rcases spawning_cases (e := e) with ⟨_, _, same⟩ | ⟨_, ⟨_, _, _, same⟩ | ⟨_, spawned, _⟩⟩
        · exact same
        · exact same
        · have finite := Tracker.isFinite_of_spawn spawned
          have infinite := site.evidencePlan.tiling.centerOf_not_finite countable overflow
            (Evidence.peak e.evidence.surface).1
          exact absurd finite (Bool.eq_false_iff.1 infinite)
      have expired := does.expired
      rw [unspawned, Tracker.mergedOnce_of_few (by simp [none])] at expired
      obtain ⟨_, left⟩ := Tracker.expire_eq_ok expired
      change ticked.engine.watch.tracker.targets = []
      rw [left, none]
      rfl
  | wait later after same =>
      subst same
      exact ⟨fun ray camera same => (by cases same), none⟩
  | nothing unmoved _ _ _ =>
      exact ⟨fun ray camera same => (by cases same), unmoved.tracker ▸ none⟩

theorem performAll_of_overflow (countable : site.evidencePlan.tiling.Countable)
    (overflow : site.evidencePlan.tiling.bounds.hasFiniteSide = false)
    (none : e.watch.tracker.targets = []) (done : e.performAll commands = .ok run) :
    ∀ command ∈ commands, ∀ ray, ¬ command.Brings site ray := by
  induction commands generalizing e run with
  | nil =>
      intro command member
      cases member
  | cons command rest ih =>
      obtain ⟨step, others, one, later, rfl⟩ := performAll_cons_eq_ok.1 done
      obtain ⟨noRay, stillNone⟩ := perform_of_overflow countable overflow none one
      intro other member
      rcases List.mem_cons.1 member with rfl | member
      · exact noRay
      · exact ih stillNone later other member

/-- The check of settings lets rectangles pass whose sides both overflow.  The limits between which
rays are held are in order for all others; there the first ray aborts the run, and nothing else
does. -/
theorem run_completes_iff {settings : Settings Float} {installation : Installation Float}
    (made : Site.create settings installation = .ok site)
    (created : Engine.create site = .ok first)
    (inTime : (Command.clockAfter commands).Reaches settings.ttl) :
    (site.evidencePlan.tiling.HasRoom ↔ settings.bounds.hasFiniteSide = true) ∧
      ((∃ run, first.performAll commands = .ok run) ↔
        settings.bounds.hasFiniteSide = true ∨
          ∀ command ∈ commands, ∀ ray, ¬ command.Brings site ray) := by
  have follows := Site.follows_of_create made
  have countable := Evidence.countable_of_create (evidence_of_create created)
  have room := site.evidencePlan.tiling.hasRoom_iff countable
  rw [follows.bounds] at room
  refine ⟨room, ?_⟩
  constructor
  · rintro ⟨run, done⟩
    cases overflow : settings.bounds.hasFiniteSide with
    | true => exact .inl rfl
    | false =>
        have start := create_eq_ok created
        subst start
        exact .inr (performAll_of_overflow countable (follows.bounds ▸ overflow) rfl done)
  · intro fits
    refine exists_performAll created ?_ ?_
    · intro command member ray brings
      rcases fits with finiteSide | noRay
      · exact (room.2 finiteSide).not_blocks ray
      · exact absurd brings (noRay command member ray)
    · rw [Site.trackerPlan, TrackerPlan.ofSettings, follows.sameSettings]
      exact inTime

theorem claimingRun_completes :
    Site.create yardSettings .empty = .ok yard ∧ Engine.create yard = .ok (start yard) ∧
      yardSettings.bounds.hasFiniteSide = true ∧
      ∃ run, (start yard).performAll claimingRun = .ok run := by
  have finiteSide : yardSettings.bounds.hasFiniteSide = true := by decide +kernel
  have inTime : (Command.clockAfter claimingRun).Reaches yardSettings.ttl := by
    unfold Instant.Reaches
    decide +kernel
  exact ⟨rfl, rfl, finiteSide, (run_completes_iff rfl rfl inTime).2.2 (.inl finiteSide)⟩

/-- Bounds that are finite and far apart: both differences are beyond the greatest finite number. -/
def vastSettings : Settings Float :=
  { yardSettings with bounds := ⟨-1e308, -1e308, 1e308, 1e308⟩ }

theorem vastSettings_abort : ∃ vast first, Site.create vastSettings .empty = .ok vast ∧
    Engine.create vast = .ok first ∧
      (Command.clockAfter [.trace "a" firstCellRay]).Reaches vastSettings.ttl ∧
      ¬ ∃ run, first.performAll [.trace "a" firstCellRay] = .ok run := by
  have checked : yields (Site.create vastSettings .empty) (fun vast =>
      yields (Engine.create vast) fun first =>
        !yields (first.performAll [.trace "a" firstCellRay]) fun _ => true) = true := by
    decide +kernel
  obtain ⟨vast, made, checked⟩ := yields_iff.1 checked
  obtain ⟨first, created, aborted⟩ := yields_iff.1 checked
  refine ⟨vast, first, made, created, by unfold Instant.Reaches; decide +kernel, ?_⟩
  rintro ⟨run, done⟩
  rw [done] at aborted
  cases aborted

end Engine

end Sightline
