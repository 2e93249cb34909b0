import Sightline.Proofs.Engine.Aborts
import Sightline.Proofs.Engine.Refusals
import Sightline.Proofs.Quiet.Reports

/-!
# Reports of unknown cameras

Each motion report of a camera that nobody mounted is answered with its fault.  It is noted only if
the camera was not noted within the quiet time, just as if no camera were ever forgotten.
-/

set_option autoImplicit false

namespace Sightline

variable {α : Type}

def Note.unknownCamera? : Note α → Option String
  | .unknownCamera name => some name
  | _ => none

variable [Scalar α]

/-- The camera of a motion report, if nobody mounted it. -/
def Command.unknown? (site : Site α) : Command α → Option String
  | .motion camera _ => if (site.installation.camera? camera).isNone then some camera else none
  | _ => none

namespace Watch

variable {w : Watch α} {plan : TrackerPlan α} {now : Instant}

theorem notes_merge : (w.merge plan).notes.filterMap Note.unknownCamera? = [] := by
  unfold merge
  cases w.tracker.merge? plan <;> rfl

theorem notes_expire {expired : Watched α (List TargetId)} (done : w.expire now = .ok expired) :
    expired.notes.filterMap Note.unknownCamera? = [] := by
  simp only [expire, bind_eq_ok] at done
  obtain ⟨_, _, result⟩ := done
  cases result
  simp [Note.unknownCamera?]

theorem notes_spawn {candidate : Point α} {spawned : Watched α (Option TargetId)}
    (done : w.spawn plan now candidate = .ok spawned) :
    spawned.notes.filterMap Note.unknownCamera? = [] := by
  simp only [spawn, bind_eq_ok] at done
  obtain ⟨⟨verdict, _⟩, _, result⟩ := done
  cases verdict <;> cases result <;> rfl

end Watch

namespace Engine

variable {site : Site α} {e first : Engine site} {commands : List (Command α)}
  {run : Step site (List (Reply site))}

/-! ## Commands without unknown cameras -/

theorem notes_spawning : e.spawning.2.notes.filterMap Note.unknownCamera? = [] := by
  simp only [spawning, spawnAt]
  split
  · split
    · rename_i spawned
      exact Watch.notes_spawn spawned
    · rfl
  · rfl

/-- Reports of unknown cameras are left as they are, and none is noted. -/
def Discreet {β : Type} (e : Engine site) (step : Step site β) : Prop :=
  step.engine.quiet = e.quiet ∧ step.notes.filterMap Note.unknownCamera? = []

theorem Traced.discreet {camera : String} {ray : Segment α}
    {step : Step site (Except (Fault α) RayOutcome)} (traced : e.Traced camera ray step) :
    e.Discreet step := by
  cases traced with
  | refused entry ends infinite same =>
      subst same
      exact ⟨rfl, rfl⟩
  | claimed claim finite best same =>
      subst same
      exact ⟨rfl, rfl⟩
  | gathered evidence finite unclaimed added same =>
      subst same
      exact ⟨rfl, rfl⟩

theorem discreet_of_tick {step : Step site (TickReport α)} (done : e.tick = .ok step) :
    e.Discreet step := by
  simp only [tick, bind_eq_ok] at done
  obtain ⟨expired, expiring, result⟩ := done
  cases result
  refine ⟨rfl, ?_⟩
  simp [publishing, List.filterMap_append, notes_spawning, Watch.notes_merge,
    Watch.notes_expire expiring]

theorem discreet_of_perform {command : Command α} {step : Step site (Reply site)}
    (known : command.unknown? site = none) (done : e.perform command = .ok step) :
    e.Discreet step := by
  cases command with
  | trace camera ray =>
      simp only [perform, bind_eq_ok] at done
      obtain ⟨traced, tracing, result⟩ := done
      cases result
      exact (trace_eq_ok tracing).discreet
  | motion camera angle =>
      simp only [perform, bind_eq_ok] at done
      obtain ⟨moved, moving, result⟩ := done
      cases result
      cases motion_eq_ok moving with
      | unknown absent same => simp [Command.unknown?, absent] at known
      | infinite mounted infinite same =>
          subst same
          exact ⟨rfl, rfl⟩
      | ray ray mounted finite brings traced => exact traced.discreet
  | tick =>
      simp only [perform, bind_eq_ok] at done
      obtain ⟨ticked, ticking, result⟩ := done
      cases result
      exact discreet_of_tick ticking
  | advance time =>
      simp only [perform, advance, bind_eq_ok] at done
      obtain ⟨_, ⟨later, after, moved⟩, result⟩ := done
      cases moved
      cases result
      exact ⟨rfl, rfl⟩
  | focus | heatmap | closest | tally | settings =>
      cases done
      exact ⟨rfl, rfl⟩

/-! ## Unknown cameras -/

theorem perform_of_unknown (e : Engine site) {command : Command α} {name : String}
    (unknown : command.unknown? site = some name) :
    e.perform command = .ok ((e.noteUnknown name).map .traced) := by
  cases command with
  | motion camera angle =>
      simp only [Command.unknown?, Option.ite_none_right_eq_some, Option.isNone_iff_eq_none] at unknown
      obtain ⟨absent, same⟩ := unknown
      cases same
      rw [perform, motion_of_unknown absent]
      rfl
  | _ => cases unknown

theorem notes_noteUnknown (e : Engine site) (name : String) :
    (e.noteUnknown name).notes =
      if e.quiet.isDue site.settings.quietTime e.now name then [.unknownCamera name] else [] := by
  rw [← Quiet.report_fst]
  rfl

/-- What a step makes of an unknown camera. -/
def mention? (e : Engine site) (command : Command α) (step : Step site (Reply site)) :
    Option Mention :=
  (command.unknown? site).map fun name =>
    ⟨e.now, name, (step.notes.filterMap Note.unknownCamera?).contains name⟩

/-- The unknown cameras that come up in a run, each with its time and whether it is noted. -/
def mentions (e : Engine site) : List (Command α) → List Mention
  | [] => []
  | command :: later =>
    match e.perform command with
    | .error _ => []
    | .ok step => (e.mention? command step).toList ++ step.engine.mentions later

theorem mentions_cons {command : Command α} {later : List (Command α)}
    {step : Step site (Reply site)} (done : e.perform command = .ok step) :
    e.mentions (command :: later) =
      (e.mention? command step).toList ++ step.engine.mentions later := by
  rw [mentions, done]

theorem mention?_of_unknown {name : String} {command : Command α}
    (unknown : command.unknown? site = some name) :
    e.mention? command ((e.noteUnknown name).map .traced) =
      some ⟨e.now, name, (e.quiet.report site.settings.quietTime e.now name).1⟩ := by
  rw [Quiet.report_fst, mention?, unknown, Option.map_some, Step.map, notes_noteUnknown]
  split <;> simp_all [Note.unknownCamera?]

/-! ## Runs -/

theorem logs_mentions {earlier : List Mention}
    (logs : Quiet.Logs site.settings.quietTime earlier e.quiet)
    (done : e.performAll commands = .ok run) :
    Quiet.Logs site.settings.quietTime (earlier ++ e.mentions commands) run.engine.quiet := by
  induction commands generalizing e run earlier with
  | nil =>
      cases done
      rw [mentions, List.append_nil]
      exact logs
  | cons command later ih =>
      obtain ⟨step, others, one, rest, rfl⟩ := performAll_cons_eq_ok.1 done
      have next : Quiet.Logs site.settings.quietTime
          (earlier ++ (e.mention? command step).toList) step.engine.quiet := by
        cases unknown : command.unknown? site with
        | none =>
            rw [(discreet_of_perform unknown one).1]
            simpa [mention?, unknown] using logs
        | some name =>
            rw [perform_of_unknown e unknown] at one
            cases one
            rw [mention?_of_unknown unknown]
            exact logs.mention e.now name
      have followed : Quiet.Logs site.settings.quietTime
          (earlier ++ (e.mention? command step).toList ++ step.engine.mentions later)
          others.engine.quiet := ih next rest
      rw [mentions_cons one, ← List.append_assoc]
      exact followed

theorem ascending_mentions (done : e.performAll commands = .ok run) :
    Mention.Ascending (e.mentions commands) ∧
      ∀ mention ∈ e.mentions commands,
        e.now.nanos ≤ mention.time.nanos ∧ mention.time.nanos ≤ run.engine.now.nanos := by
  induction commands generalizing e run with
  | nil => exact ⟨.nil, nofun⟩
  | cons command later ih =>
      obtain ⟨step, others, one, rest, rfl⟩ := performAll_cons_eq_ok.1 done
      obtain ⟨ascending, between⟩ := ih rest
      have now := now_perform one
      have after := now_performAll rest
      have late : ∀ mention ∈ step.engine.mentions later, e.now.nanos ≤ mention.time.nanos ∧
          mention.time.nanos ≤ others.engine.now.nanos := by
        intro mention member
        have times := between mention member
        omega
      rw [mentions_cons one]
      cases unknown : command.unknown? site with
      | none => simpa [mention?, unknown] using ⟨ascending, late⟩
      | some name =>
          simp only [mention?, unknown, Option.map_some, Option.toList_some, List.singleton_append,
            List.forall_mem_cons]
          refine ⟨List.pairwise_cons.2 ⟨fun mention member => (late mention member).1, ascending⟩,
            ⟨Nat.le_refl _, ?_⟩, late⟩
          change e.now.nanos ≤ others.engine.now.nanos
          omega

theorem notes_eq_reported (done : e.performAll commands = .ok run) :
    run.notes.filterMap Note.unknownCamera? =
      ((e.mentions commands).filter (·.reported)).map (·.name) := by
  induction commands generalizing e run with
  | nil =>
      cases done
      rfl
  | cons command later ih =>
      obtain ⟨step, others, one, rest, rfl⟩ := performAll_cons_eq_ok.1 done
      rw [mentions_cons one, List.filter_append, List.map_append, ← ih rest]
      simp only [Step.append, Step.alone, List.filterMap_append]
      congr 1
      cases unknown : command.unknown? site with
      | none => simp [mention?, unknown, (discreet_of_perform unknown one).2]
      | some name =>
          rw [perform_of_unknown e unknown] at one
          cases one
          rw [mention?_of_unknown unknown, Quiet.report_fst, Step.map, notes_noteUnknown]
          cases e.quiet.isDue site.settings.quietTime e.now name <;> simp [Note.unknownCamera?]

/-- Whatever an engine is asked to do: unknown cameras are noted just as if each note were remembered
for ever, no two notes of a camera are less than the quiet time apart, and an unknown camera is left
out only within the quiet time of its last note.  It is answered with its fault in either case. -/
theorem unknown_cameras_debounced (created : Engine.create site = .ok first)
    (done : first.performAll commands = .ok run) :
    Quiet.Debounced site.settings.quietTime (first.mentions commands) run.engine.quiet ∧
      run.notes.filterMap Note.unknownCamera? =
        ((first.mentions commands).filter (·.reported)).map (·.name) ∧
      ∀ name angle, site.installation.camera? name = none →
        ∃ answered, run.engine.perform (.motion name angle) = .ok answered ∧
          answered.result = .traced (.error (.unknownCamera name)) ∧
          answered.notes =
            if Mention.isDue site.settings.quietTime (Mention.memory (first.mentions commands))
              run.engine.now name then [.unknownCamera name] else [] := by
  have start := create_eq_ok created
  subst start
  have logs := logs_mentions .nothing done
  obtain ⟨ascending, between⟩ := ascending_mentions done
  refine ⟨logs.debounced ascending, notes_eq_reported done, ?_⟩
  intro name angle absent
  have unknown : (Command.motion name angle).unknown? site = some name := by
    simp [Command.unknown?, absent]
  refine ⟨_, perform_of_unknown run.engine unknown, rfl, ?_⟩
  rw [Step.map, notes_noteUnknown, logs.follows.isDue_eq]
  · rfl
  · intro mention member
    exact (between mention member).2

/-- Two cameras that nobody mounted; the first is noted again after a minute, to the second. -/
def strangeRun : List (Command Float) :=
  [.motion "z" 0, .motion "z" 0, .advance ⟨59000000000⟩, .motion "z" 0, .motion "y" (0 / 0), .tick,
    .advance ⟨1000000000⟩, .motion "z" 90, .motion "y" 0]

theorem strangeRun_debounced : ∃ run,
    (start yard).performAll strangeRun = .ok run ∧
      (start yard).mentions strangeRun =
        [⟨⟨0⟩, "z", true⟩, ⟨⟨0⟩, "z", false⟩, ⟨⟨59000000000⟩, "z", false⟩,
          ⟨⟨59000000000⟩, "y", true⟩, ⟨⟨60000000000⟩, "z", true⟩, ⟨⟨60000000000⟩, "y", false⟩] ∧
      Quiet.Debounced yard.settings.quietTime ((start yard).mentions strangeRun) run.engine.quiet := by
  have checked : yields ((start yard).performAll strangeRun) (fun _ => True) = true := by
    decide +kernel
  have mentioned : (start yard).mentions strangeRun =
      [⟨⟨0⟩, "z", true⟩, ⟨⟨0⟩, "z", false⟩, ⟨⟨59000000000⟩, "z", false⟩,
        ⟨⟨59000000000⟩, "y", true⟩, ⟨⟨60000000000⟩, "z", true⟩, ⟨⟨60000000000⟩, "y", false⟩] := by
    decide +kernel
  obtain ⟨run, done, _⟩ := yields_iff.1 checked
  exact ⟨run, done, mentioned, (unknown_cameras_debounced rfl done).1⟩

end Engine

end Sightline
