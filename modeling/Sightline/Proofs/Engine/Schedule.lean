import Sightline.Engine.Run
import Sightline.Proofs.Engine.Corroboration
import Sightline.Proofs.Engine.Sites

/-!
# The schedule of a run

What a run comes to is settled by its timeline before it starts: the times of its ticks, the order
of its errands and how it closes.  A run does no more than carry these errands out one by one.
-/

set_option autoImplicit false

namespace Sightline

variable {α : Type} [Scalar α] {site : Site α}

/-! ## Ticks and errands -/

/-- One of the things that a run does at some time. -/
inductive Errand (α : Type) where
  | arrival (commands : List (Command α))
  | tick

def Errand.arrivals (arrivals : List (Nat × List (Command α))) : List (Nat × Errand α) :=
  arrivals.map fun arrival => (arrival.1, .arrival arrival.2)

def Errand.ticks (times : List Nat) : List (Nat × Errand α) := times.map fun time => (time, .tick)

def Errand.notLater (first second : Nat × Errand α) : Bool := first.1 ≤ second.1

omit [Scalar α] in
theorem Errand.merge_of_first {first : Nat × Errand α} {others ticks : List (Nat × Errand α)}
    (earliest : ∀ tick ∈ ticks, first.1 ≤ tick.1) :
    List.merge (first :: others) ticks Errand.notLater =
      first :: List.merge others ticks Errand.notLater := by
  cases ticks with
  | nil => simp
  | cons tick rest =>
      apply List.cons_merge_cons_pos
      simpa [notLater] using earliest tick List.mem_cons_self

omit [Scalar α] in
theorem Errand.merge_of_tick_first {tick : Nat × Errand α} {arrivals ticks : List (Nat × Errand α)}
    (earlier : ∀ arrival ∈ arrivals, tick.1 < arrival.1) :
    List.merge arrivals (tick :: ticks) Errand.notLater =
      tick :: List.merge arrivals ticks Errand.notLater := by
  cases arrivals with
  | nil => simp
  | cons arrival rest =>
      apply List.cons_merge_cons_neg
      simpa [notLater] using earlier arrival List.mem_cons_self

namespace Timeline

/-- The times from `wake` on in steps of a period, as long as they come before the stop. -/
def timesFrom (stop period wake : Nat) : List Nat :=
  List.range' wake ((stop - wake + period - 1) / period) period

theorem timesFrom_of_le {stop period wake : Nat} (late : stop ≤ wake) :
    timesFrom stop period wake = [] := by
  have none : (stop - wake + period - 1) / period = 0 := by
    rcases Nat.eq_zero_or_pos period with rfl | positive
    · exact Nat.div_zero _
    · exact Nat.div_eq_of_lt (by omega)
  rw [timesFrom, none]
  rfl

theorem timesFrom_of_lt {stop period wake : Nat} (positive : 0 < period) (due : wake < stop) :
    timesFrom stop period wake = wake :: timesFrom stop period (wake + period) := by
  have more : (stop - wake + period - 1) / period =
      (stop - (wake + period) + period - 1) / period + 1 := by
    rw [← Nat.add_div_right _ positive]
    by_cases last : stop ≤ wake + period
    · have one : (stop - wake + period - 1) / period = 1 :=
        Nat.div_eq_of_lt_le (by omega) (by omega)
      have same : (stop - (wake + period) + period - 1 + period) / period = 1 :=
        Nat.div_eq_of_lt_le (by omega) (by omega)
      rw [one, same]
    · congr 1
      omega
  rw [timesFrom, more, List.range'_succ, ← timesFrom]

theorem mem_timesFrom {stop period wake time : Nat} (positive : 0 < period) :
    time ∈ timesFrom stop period wake ↔ time < stop ∧ ∃ k, time = wake + k * period := by
  rw [timesFrom, List.mem_range']
  constructor
  · rintro ⟨k, below, rfl⟩
    have := (Nat.le_div_iff_mul_le positive).1 (Nat.succ_le_of_lt below)
    rw [Nat.succ_mul] at this
    rw [Nat.mul_comm period]
    exact ⟨by omega, k, rfl⟩
  · rintro ⟨before, k, rfl⟩
    refine ⟨k, ?_, by rw [Nat.mul_comm]⟩
    apply (Nat.le_div_iff_mul_le positive).2
    rw [Nat.succ_mul]
    omega

variable (timeline : Timeline α)

/-- The time at which the run can first see the stop. -/
def stopSeenAt : Nat := if timeline.stoppedFirst then 0 else timeline.stop

/-- The times at which a run ticks. -/
def tickTimes (settings : Settings α) : List Nat :=
  timesFrom timeline.stopSeenAt settings.spawnPeriod (settings.warmup + settings.spawnPeriod)

theorem mem_tickTimes {settings : Settings α} (sound : settings.Sound) (time : Nat) :
    time ∈ timeline.tickTimes settings ↔
      timeline.stoppedFirst = false ∧ time < timeline.stop ∧
        ∃ k, 1 ≤ k ∧ time = settings.warmup + k * settings.spawnPeriod := by
  rw [tickTimes, mem_timesFrom sound.period, stopSeenAt]
  cases timeline.stoppedFirst with
  | true => simp
  | false =>
      simp only [Bool.false_eq_true, if_false, true_and, and_congr_right_iff]
      intro _
      constructor
      · rintro ⟨k, rfl⟩
        refine ⟨k + 1, by omega, ?_⟩
        rw [Nat.succ_mul]
        omega
      · rintro ⟨k, some, rfl⟩
        obtain ⟨j, rfl⟩ := Nat.exists_eq_add_of_le' some
        refine ⟨j, ?_⟩
        rw [Nat.succ_mul]
        omega

theorem tickTimes_ascending {settings : Settings α} (sound : settings.Sound) :
    (timeline.tickTimes settings).Pairwise (· < ·) :=
  List.pairwise_lt_range' _ sound.period

/-- The commands that arrive while the run goes on. -/
def during : List (Nat × List (Command α)) :=
  if timeline.stoppedFirst then [] else timeline.arrivals.filter (·.1 ≤ timeline.stop)

/-- The commands that arrive when the run is over. -/
def afterwards : List (Nat × List (Command α)) :=
  if timeline.stoppedFirst then timeline.arrivals
  else timeline.arrivals.filter (timeline.stop < ·.1)

/-- What the run does until it closes, in the order of the times. -/
def agenda (settings : Settings α) : List (Nat × Errand α) :=
  List.merge (Errand.arrivals timeline.during) (Errand.ticks (timeline.tickTimes settings))
    Errand.notLater

def closing (settings : Settings α) : Note α :=
  if Run.stopSeen timeline.stopSeenAt timeline.timerFirst settings.warmup then .runCancelledEarly
  else .runStopped

omit [Scalar α] in
theorem agenda_perm (settings : Settings α) :
    (timeline.agenda settings).Perm
      (Errand.arrivals timeline.during ++ Errand.ticks (timeline.tickTimes settings)) :=
  List.merge_perm_append _

theorem agenda_sorted {settings : Settings α} (sound : settings.Sound)
    (ordered : timeline.arrivals.Pairwise fun a b => a.1 ≤ b.1) :
    (timeline.agenda settings).Pairwise fun a b => a.1 ≤ b.1 := by
  have arrivals : timeline.during.Pairwise fun a b => a.1 ≤ b.1 := by
    unfold during
    split
    · exact .nil
    · exact ordered.filter _
  have ticks := (timeline.tickTimes_ascending sound).imp Nat.le_of_lt
  have merged : (timeline.agenda settings).Pairwise fun a b => Errand.notLater a b = true := by
    apply List.pairwise_merge
    · intro a b c ab bc
      simp only [Errand.notLater, decide_eq_true_eq] at ab bc ⊢
      exact Nat.le_trans ab bc
    · intro a b
      simp only [Errand.notLater, Bool.or_eq_true, decide_eq_true_eq]
      exact Nat.le_total _ _
    · simpa [Errand.arrivals, Errand.notLater, List.pairwise_map] using arrivals
    · simpa [Errand.ticks, Errand.notLater, List.pairwise_map] using ticks
  simpa [Errand.notLater] using merged

omit [Scalar α] in
/-- Without a tie it does not matter which of the two a wait sees first. -/
theorem closing_of_untied {settings : Settings α}
    (untied : timeline.stopSeenAt ≠ settings.warmup) :
    timeline.closing settings =
      if timeline.stoppedFirst ∨ timeline.stop < settings.warmup then .runCancelledEarly
      else .runStopped := by
  have early : Run.stopSeen timeline.stopSeenAt timeline.timerFirst settings.warmup = true ↔
      timeline.stopSeenAt < settings.warmup := by
    unfold Run.stopSeen
    split
    · simp
    · simp only [decide_eq_true_eq]
      omega
  have told : timeline.stopSeenAt < settings.warmup ↔
      timeline.stoppedFirst = true ∨ timeline.stop < settings.warmup := by
    unfold stopSeenAt at untied ⊢
    by_cases stopped : timeline.stoppedFirst = true
    · rw [if_pos stopped] at untied ⊢
      simp only [stopped, true_or, iff_true]
      omega
    · simp [stopped]
  rw [closing]
  exact if_congr (early.trans told) rfl rfl

end Timeline

/-! ## One errand after the other -/

namespace Engine

/-- Carries out errands one after the other; only arrivals are replied to. -/
def carryOut (e : Engine site) :
    List (Nat × Errand α) → Except Abort (Step site (List (List (Reply site))))
  | [] => .ok (e.silently [])
  | (_, .arrival commands) :: later => do
    let first ← e.performAll commands
    let others ← first.engine.carryOut later
    .ok ⟨first.result :: others.result, others.engine, first.notes ++ others.notes,
      first.published ++ others.published⟩
  | (_, .tick) :: later => do
    let first ← e.tick
    let others ← first.engine.carryOut later
    .ok ⟨others.result, others.engine, first.notes ++ others.notes,
      first.published ++ others.published⟩

/-- The run as its timeline tells it beforehand. -/
def runBySchedule (e : Engine site) (timeline : Timeline α) : Except Abort (Run site) := do
  let before ← e.carryOut (timeline.agenda site.settings)
  let after ← before.engine.carryOut (Errand.arrivals timeline.afterwards)
  .ok
    { engine := after.engine
      replies := before.result ++ after.result
      notes := .runStarting site.settings.period site.settings.warmupTime ::
        before.notes ++ timeline.closing site.settings :: after.notes
      published := before.published ++ after.published }

end Engine

namespace Run

variable {run : Run site}

/-- A run with what errands have added to it. -/
def after (run : Run site) (step : Step site (List (List (Reply site)))) : Run site :=
  { run.follow step with replies := run.replies ++ step.result }

/-- Goes on with a run as its timeline tells beforehand: errands, the closing, later arrivals. -/
def finish (run : Run site) (errands : List (Nat × Errand α)) (closing : Note α)
    (later : List (Nat × List (Command α))) : Except Abort (Run site) := do
  let before ← run.engine.carryOut errands
  let closed := (run.after before).note closing
  let last ← closed.engine.carryOut (Errand.arrivals later)
  .ok (closed.after last)

theorem arriveAll_eq (arrivals : List (Nat × List (Command α))) :
    run.arriveAll arrivals =
      (run.engine.carryOut (Errand.arrivals arrivals)).map run.after := by
  induction arrivals generalizing run with
  | nil => simp [arriveAll, Errand.arrivals, Engine.carryOut, Except.map, after, follow,
      Engine.silently]
  | cons arrival rest ih =>
      obtain ⟨time, commands⟩ := arrival
      simp only [arriveAll, arrive, Errand.arrivals, List.map_cons, Engine.carryOut]
      cases run.engine.performAll commands with
      | error abort => rfl
      | ok first =>
          simp only [bind, Except.bind, ih]
          change (first.engine.carryOut _).map _ = _
          rw [← Errand.arrivals]
          cases first.engine.carryOut (Errand.arrivals rest) with
          | error abort => rfl
          | ok others => simp [Except.map, after, follow]

theorem finish_nil (closing : Note α) (later : List (Nat × List (Command α))) :
    run.finish [] closing later = (run.note closing).arriveAll later := by
  have same : run.after (run.engine.silently []) = run := by
    simp [after, follow, Engine.silently]
  rw [arriveAll_eq]
  simp only [finish, Engine.carryOut, bind, Except.bind, same]
  rfl

theorem finish_arrival (time : Nat) (commands : List (Command α)) (errands : List (Nat × Errand α))
    (closing : Note α) (later : List (Nat × List (Command α))) :
    run.finish ((time, .arrival commands) :: errands) closing later =
      run.arrive commands >>= fun next => next.finish errands closing later := by
  simp only [finish, arrive, Engine.carryOut]
  cases run.engine.performAll commands with
  | error abort => rfl
  | ok first =>
      simp only [bind, Except.bind, follow]
      cases first.engine.carryOut errands with
      | error abort => rfl
      | ok others => simp [after, follow, note]

theorem finish_tick (time : Nat) (errands : List (Nat × Errand α)) (closing : Note α)
    (later : List (Nat × List (Command α))) :
    run.finish ((time, .tick) :: errands) closing later =
      run.tick >>= fun next => next.finish errands closing later := by
  simp only [finish, tick, Engine.carryOut]
  cases run.engine.tick with
  | error abort => rfl
  | ok first =>
      simp only [bind, Except.bind, follow]
      cases first.engine.carryOut errands with
      | error abort => rfl
      | ok others => simp [after, follow, note]

/-! ## The loop -/

/-- The first tick of a run whose timer is set: a warm-up is waited for without one. -/
def firstTick (period wake : Nat) : Phase → Nat
  | .warmingUp => wake + period
  | .ticking => wake

def closingFrom (stop : Nat) (timerFirst : Bool) (wake : Nat) : Phase → Note α
  | .warmingUp => if stopSeen stop timerFirst wake then .runCancelledEarly else .runStopped
  | .ticking => .runStopped

/-- What is left to do of a run whose timer is set to `wake`. -/
def agendaFrom (stop period wake : Nat) (phase : Phase) (arrivals : List (Nat × List (Command α))) :
    List (Nat × Errand α) :=
  List.merge (Errand.arrivals (arrivals.filter (·.1 ≤ stop)))
    (Errand.ticks (Timeline.timesFrom stop period (firstTick period wake phase))) Errand.notLater

variable {stop period wake : Nat} {phase : Phase} {arrivals : List (Nat × List (Command α))}

theorem le_of_stopSeen {timerFirst : Bool} (seen : stopSeen stop timerFirst wake = true) :
    stop ≤ wake := by
  unfold stopSeen at seen
  split at seen
  · exact Nat.le_of_lt (of_decide_eq_true seen)
  · exact of_decide_eq_true seen

theorem le_of_not_stopSeen {timerFirst : Bool} (unseen : ¬ stopSeen stop timerFirst wake = true) :
    wake ≤ stop := by
  unfold stopSeen at unseen
  split at unseen
  · simpa using unseen
  · exact Nat.le_of_lt (by simpa using unseen)

theorem wake_le_firstTick : wake ≤ firstTick period wake phase := by
  cases phase with
  | warmingUp => exact Nat.le_add_right _ _
  | ticking => exact Nat.le_refl _

omit [Scalar α] in
theorem due?_eq_some {commands : List (Command α)} {later : List (Nat × List (Command α))}
    (taken : due? stop wake arrivals = some (commands, later)) :
    ∃ time, time ≤ wake ∧ time ≤ stop ∧ arrivals = (time, commands) :: later := by
  unfold due? at taken
  split at taken
  · cases taken
  · split at taken
    · rename_i time _ _ due
      cases taken
      exact ⟨time, due.1, due.2, rfl⟩
    · cases taken

omit [Scalar α] in
theorem due?_eq_none (ordered : arrivals.Pairwise fun a b => a.1 ≤ b.1)
    (none : due? stop wake arrivals = none) :
    ∀ arrival ∈ arrivals, wake < arrival.1 ∨ stop < arrival.1 := by
  cases arrivals with
  | nil =>
      intro arrival member
      cases member
  | cons first rest =>
      obtain ⟨time, commands⟩ := first
      simp only [due?, ite_eq_right_iff, reduceCtorEq, imp_false, not_and_or, Nat.not_le] at none
      intro arrival member
      rcases List.mem_cons.1 member with rfl | member
      · exact none
      · have := List.rel_of_pairwise_cons ordered member
        dsimp only at this
        omega

omit [Scalar α] in
theorem agendaFrom_of_due {time : Nat} {commands : List (Command α)} (positive : 0 < period)
    (due : time ≤ wake) (early : time ≤ stop) :
    agendaFrom stop period wake phase ((time, commands) :: arrivals) =
      (time, .arrival commands) :: agendaFrom stop period wake phase arrivals := by
  have first : ∀ tick ∈ Errand.ticks (α := α)
      (Timeline.timesFrom stop period (firstTick period wake phase)), time ≤ tick.1 := by
    intro tick member
    obtain ⟨tickTime, listed, rfl⟩ := List.mem_map.1 member
    obtain ⟨_, k, rfl⟩ := (Timeline.mem_timesFrom positive).1 listed
    have : wake ≤ firstTick period wake phase := wake_le_firstTick
    dsimp only
    omega
  have kept : ((time, commands) :: arrivals).filter (·.1 ≤ stop) =
      (time, commands) :: arrivals.filter (·.1 ≤ stop) := by
    simp [early]
  rw [agendaFrom, kept]
  exact Errand.merge_of_first first

theorem finish_of_late (closing : Note α) (quiet : ∀ arrival ∈ arrivals, stop < arrival.1)
    (late : stop ≤ firstTick period wake phase) :
    run.finish (agendaFrom stop period wake phase arrivals) closing
        (arrivals.filter (stop < ·.1)) =
      (run.note closing).arriveAll arrivals := by
  have none : arrivals.filter (·.1 ≤ stop) = [] := by
    apply List.filter_eq_nil_iff.2
    intro arrival member
    simpa using quiet arrival member
  have all : arrivals.filter (stop < ·.1) = arrivals := by
    apply List.filter_eq_self.2
    intro arrival member
    simpa using quiet arrival member
  have nothing : agendaFrom stop period wake phase arrivals = [] := by
    rw [agendaFrom, none, Timeline.timesFrom_of_le late]
    simp [Errand.arrivals, Errand.ticks]
  rw [nothing, all]
  exact finish_nil closing arrivals

omit [Scalar α] in
theorem agendaFrom_of_waking (positive : 0 < period) (waking : wake < stop)
    (idle : ∀ arrival ∈ arrivals, wake < arrival.1) :
    agendaFrom stop period wake .ticking arrivals =
      (wake, .tick) :: agendaFrom stop period (wake + period) .ticking arrivals := by
  have times : Timeline.timesFrom stop period (firstTick period wake .ticking) =
      wake :: Timeline.timesFrom stop period (wake + period) :=
    Timeline.timesFrom_of_lt positive waking
  rw [agendaFrom, times]
  apply Errand.merge_of_tick_first
  intro arrival member
  obtain ⟨early, listed, rfl⟩ := List.mem_map.1 member
  exact idle early (List.mem_of_mem_filter listed)

/-- The induction is on the fuel: an arrival or a waking uses one of it, and leaves a run whose
agenda is the rest of what was left to do. -/
theorem goOn_eq_finish {timerFirst : Bool} {fuel : Nat} (positive : 0 < site.settings.spawnPeriod)
    (enough : arrivals.length + (stop + 1 - wake) < fuel)
    (ordered : arrivals.Pairwise fun a b => a.1 ≤ b.1) :
    goOn stop timerFirst fuel phase wake arrivals run =
      run.finish (agendaFrom stop site.settings.spawnPeriod wake phase arrivals)
        (closingFrom stop timerFirst wake phase) (arrivals.filter (stop < ·.1)) := by
  induction fuel generalizing phase wake arrivals run with
  | zero => omega
  | succ fuel ih =>
      unfold goOn
      split
      · rename_i commands later taken
        obtain ⟨time, due, early, rfl⟩ := due?_eq_some taken
        have left : ((time, commands) :: later).filter (stop < ·.1) =
            later.filter (stop < ·.1) := by
          simp [early]
        rw [agendaFrom_of_due positive due early, finish_arrival, left]
        congr 1
        funext next
        exact ih (by simp at enough; omega) ordered.of_cons
      · rename_i none
        have idle := due?_eq_none ordered none
        cases phase with
        | warmingUp =>
            dsimp only
            split
            · rename_i seen
              have late := le_of_stopSeen seen
              rw [finish_of_late _ (by grind) (Nat.le_trans late wake_le_firstTick), closingFrom,
                if_pos seen]
            · rename_i unseen
              have early := le_of_not_stopSeen unseen
              rw [ih (by omega) ordered, closingFrom, if_neg unseen]
              rfl
        | ticking =>
            dsimp only
            split
            · rename_i seen
              have late : stop ≤ wake := by
                rcases Bool.or_eq_true_iff.1 seen with seen | late
                · exact le_of_stopSeen seen
                · exact of_decide_eq_true late
              rw [finish_of_late _ (by grind) late, closingFrom]
            · rename_i unseen
              have waking : wake < stop := by
                simp only [Bool.or_eq_true, decide_eq_true_eq, not_or] at unseen
                omega
              rw [agendaFrom_of_waking positive waking (by grind), finish_tick]
              congr 1
              funext next
              exact ih (by omega) ordered

end Run

/-! ## Runs -/

namespace Engine

variable {settings : Settings α} {installation : Installation α} {e : Engine site}
  {timeline : Timeline α}

theorem run_eq_runBySchedule (positive : 0 < site.settings.spawnPeriod)
    (ordered : timeline.arrivals.Pairwise fun a b => a.1 ≤ b.1) :
    e.run timeline = e.runBySchedule timeline := by
  have bySchedule : e.runBySchedule timeline =
      (⟨e, [], [.runStarting site.settings.period site.settings.warmupTime], []⟩ : Run site).finish
        (timeline.agenda site.settings) (timeline.closing site.settings) timeline.afterwards := by
    simp [runBySchedule, Run.finish, Run.after, Run.follow, Run.note]
  rw [bySchedule, run]
  by_cases stopped : timeline.stoppedFirst = true
  · have agenda : timeline.agenda site.settings = [] := by
      simp [Timeline.agenda, Timeline.during, Timeline.tickTimes, Timeline.stopSeenAt, stopped,
        Timeline.timesFrom_of_le, Errand.arrivals, Errand.ticks]
    rw [agenda, Run.finish_nil]
    simp [Timeline.closing, Timeline.afterwards, Timeline.stopSeenAt, stopped]
  · rw [if_neg stopped, Run.goOn_eq_finish positive (by omega) ordered]
    simp [Run.agendaFrom, Run.closingFrom, Run.firstTick, Timeline.agenda, Timeline.closing,
      Timeline.during, Timeline.tickTimes, Timeline.stopSeenAt, Timeline.afterwards, stopped]

/-- A run carries out its arrivals and its ticks one after the other in the order of their times,
and says how it closes; it ticks once a period after the warm-up, always before the stop. -/
theorem run_follows_schedule (made : Site.create settings installation = .ok site)
    (ordered : timeline.arrivals.Pairwise fun a b => a.1 ≤ b.1) :
    e.run timeline = e.runBySchedule timeline ∧
      (∀ time, time ∈ timeline.tickTimes settings ↔
        timeline.stoppedFirst = false ∧ time < timeline.stop ∧
          ∃ k, 1 ≤ k ∧ time = settings.warmup + k * settings.spawnPeriod) ∧
      (timeline.tickTimes settings).Pairwise (· < ·) ∧
      (timeline.agenda settings).Perm
        (Errand.arrivals timeline.during ++ Errand.ticks (timeline.tickTimes settings)) ∧
      (timeline.agenda settings).Pairwise (fun a b => a.1 ≤ b.1) ∧
      (timeline.stopSeenAt ≠ settings.warmup →
        timeline.closing settings =
          if timeline.stoppedFirst ∨ timeline.stop < settings.warmup then .runCancelledEarly
          else .runStopped) := by
  have follows := Site.follows_of_create made
  have positive : 0 < site.settings.spawnPeriod := follows.sameSettings ▸ follows.sound.period
  exact ⟨run_eq_runBySchedule positive ordered, timeline.mem_tickTimes follows.sound,
    timeline.tickTimes_ascending follows.sound, timeline.agenda_perm settings,
    timeline.agenda_sorted follows.sound ordered, timeline.closing_of_untied⟩

def briefTimeline : Timeline Float where
  stop := 1600
  stoppedFirst := false
  arrivals := [(100, [.trace "a" firstCellRay]), (1300, [.trace "b" firstCellRay, .tally])]

theorem briefTimeline_follows_schedule :
    (start yard).run briefTimeline = (start yard).runBySchedule briefTimeline ∧
      1500 ∈ briefTimeline.tickTimes yardSettings ∧
      briefTimeline.closing yardSettings = .runStopped := by
  have ordered : briefTimeline.arrivals.Pairwise fun a b => a.1 ≤ b.1 := by
    simp [briefTimeline]
  obtain ⟨same, ticks, _, _, _, closing⟩ :=
    run_follows_schedule (e := start yard) yard_created ordered
  exact ⟨same, (ticks 1500).2 ⟨rfl, by decide, 2, by decide, rfl⟩, closing (by decide)⟩

end Engine

end Sightline
