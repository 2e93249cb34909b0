import Sightline.Proofs.Engine.Identity
import Sightline.Proofs.Engine.Refusals
import Sightline.Proofs.Tally.Counts

/-!
# Counters and replies agree

Every reply tells of rays claimed, gathered or rejected, of ticks, and of targets set, merged or
expired.  The counters of these show after any run just what its replies tell; of the attempts to set
a target, which replies do not tell, each came out in one of three ways and there was at most one in a
tick.  The gauge of live targets shows how many there are.
-/

set_option autoImplicit false

namespace Sightline

variable {α : Type} [Scalar α]

def SpawnVerdict.counter : SpawnVerdict → Counter
  | .underCamera => .spawnUnderCamera
  | .onTarget => .spawnOnTarget
  | .spawned _ => .spawned

/-! ## What is told -/

def Ledger.counters (l : Ledger) : List Counter :=
  List.replicate l.issued.length Counter.spawned ++ List.replicate l.joined.length Counter.merged ++
    List.replicate l.lapsed.length Counter.expired

/-- One counter for each ray, rejected input, tick, target set, merge and expired target that a reply
tells of.  An unknown camera counts for nothing. -/
def Reply.told {site : Site α} : Reply site → List Counter
  | .traced (.ok .claimed) => [.rayClaimed]
  | .traced (.ok .gathered) => [.rayGathered]
  | .traced (.error (.notFinite _)) => [.inputRejected]
  | .ticked report => .ticks :: report.ledger.counters
  | _ => []

/-- No reply tells of an attempt to set a target, or of how it failed. -/
def Counter.IsTold (counter : Counter) : Prop :=
  counter ≠ .spawnTried ∧ counter ≠ .spawnUnderCamera ∧ counter ≠ .spawnOnTarget

instance (counter : Counter) : Decidable counter.IsTold :=
  inferInstanceAs (Decidable (_ ∧ _ ∧ _))

/-- The counters of at most one attempt to set a target, with the id that it gave out. -/
inductive Attempt : Option TargetId → List Counter → Prop
  | untried : Attempt none []
  | tried (verdict : SpawnVerdict) : Attempt verdict.id? [.spawnTried, verdict.counter]

/-! ## Accounted rules -/

namespace Watch

variable {w middle after : Watch α} {counters later : List Counter} {plan : TrackerPlan α}
  {now : Instant}

def Gauged (w : Watch α) : Prop := w.tally.liveTargets = Scalar.ofNat w.tracker.targets.length

structure Books (w after : Watch α) (counters : List Counter) : Prop where
  counts : Tally.Counts w.tally after.tally counters
  gauged : w.Gauged → after.Gauged

theorem Books.nil (w : Watch α) : w.Books w [] := ⟨.refl _, id⟩

theorem Books.append (first : w.Books middle counters) (second : middle.Books after later) :
    w.Books after (counters ++ later) :=
  ⟨first.counts.append second.counts, second.gauged ∘ first.gauged⟩

theorem books_count (w : Watch α) (counter : Counter) : w.Books (w.count counter) [counter] := by
  refine ⟨.count w.tally counter, fun gauged => ?_⟩
  rw [Gauged, count, Tally.liveTargets_count]
  exact gauged

theorem books_gauge (w : Watch α) (tracker : Tracker α) : w.Books (w.gauge tracker) [] :=
  ⟨.read w.tally _ _, fun _ => rfl⟩

theorem books_read (w : Watch α) (gauge : Gauge) (value : α) (other : gauge ≠ .liveTargets) :
    w.Books { w with tally := w.tally.read gauge value } [] := by
  refine ⟨.read w.tally gauge value, fun gauged => ?_⟩
  rw [Gauged, Tally.liveTargets_read w.tally value other]
  exact gauged

theorem books_offer (w : Watch α) (plan : TrackerPlan α) (now : Instant) (ray : Segment α) :
    w.Books { w with tracker := (w.tracker.offerFinite plan now ray).2 } [] := by
  refine ⟨.refl _, fun gauged => ?_⟩
  have same : (w.tracker.offerFinite plan now ray).2.targets.length = w.tracker.targets.length := by
    unfold Tracker.offerFinite
    cases Tracker.claim? w.tracker.targets ray with
    | none => rfl
    | some claim => exact List.length_modify ..
  rw [Gauged, same]
  exact gauged

theorem books_merge (w : Watch α) (plan : TrackerPlan α) :
    w.Books (w.merge plan).watch (Ledger.join (w.merge plan).result).counters := by
  unfold merge
  cases w.tracker.merge? plan with
  | none => exact .nil w
  | some merged => exact (books_gauge w merged.2).append (books_count _ .merged)

theorem books_foldl_count (w : Watch α) (counter : Counter) (ids : List TargetId) :
    w.Books (ids.foldl (fun counted _ => counted.count counter) w)
      (List.replicate ids.length counter) := by
  induction ids generalizing w with
  | nil => exact .nil w
  | cons id rest ih => exact (books_count w counter).append (ih (w.count counter))

theorem books_expire {expired : Watched α (List TargetId)} (done : w.expire now = .ok expired) :
    w.Books expired.watch (Ledger.lapse expired.result).counters := by
  simp only [expire, bind_eq_ok] at done
  obtain ⟨⟨gone, tracker⟩, _, result⟩ := done
  cases result
  exact (books_gauge w tracker).append (books_foldl_count _ .expired gone)

theorem books_spawn {candidate : Point α} {spawned : Watched α (Option TargetId)}
    (done : w.spawn plan now candidate = .ok spawned) :
    ∃ tried, Attempt spawned.result tried ∧ w.Books spawned.watch tried := by
  simp only [spawn, bind_eq_ok] at done
  obtain ⟨⟨verdict, tracker⟩, _, result⟩ := done
  refine ⟨[.spawnTried, verdict.counter], ?_, ?_⟩
  · cases verdict with
    | underCamera =>
        cases result
        exact .tried .underCamera
    | onTarget =>
        cases result
        exact .tried .onTarget
    | spawned id =>
        cases result
        exact .tried (.spawned id)
  · have tried := books_count w .spawnTried
    cases verdict with
    | underCamera =>
        cases result
        exact tried.append (books_count _ .spawnUnderCamera)
    | onTarget =>
        cases result
        exact tried.append (books_count _ .spawnOnTarget)
    | spawned id =>
        cases result
        exact (tried.append (books_gauge _ tracker)).append (books_count _ .spawned)

/-! Looking at evidence gauges what it sees, but no targets. -/

variable {evidencePlan : EvidencePlan α}

theorem books_survey (w : Watch α) (e : Evidence evidencePlan) :
    w.Books { w with tally := (e.survey w.tally).2 } [] := by
  unfold Evidence.survey
  split
  · exact .nil w
  · have summed := books_read w .evidenceTotal (e.sum.fold (· + ·) 0) (by decide)
    exact summed.append (books_read _ .evidencePeak _ (by decide))

theorem books_focus (w : Watch α) (e : Evidence evidencePlan) :
    w.Books { w with tally := (e.focus w.tally).2 } [] :=
  (books_survey w e).append (books_read _ .focusValue _ (by decide))

theorem books_heatmap (w : Watch α) (e : Evidence evidencePlan) :
    w.Books { w with tally := (e.heatmap w.tally).2 } [] :=
  books_survey w e

end Watch

/-! ## Counting what is told -/

theorem Ledger.count_counters (l : Ledger) (counter : Counter) :
    l.counters.count counter =
      (if counter = .spawned then l.issued.length else 0) +
        (if counter = .merged then l.joined.length else 0) +
          if counter = .expired then l.lapsed.length else 0 := by
  cases counter <;> simp [counters, List.count_replicate]

theorem Ledger.count_counters_append (l later : Ledger) (counter : Counter) :
    (l ++ later).counters.count counter =
      l.counters.count counter + later.counters.count counter := by
  simp only [count_counters, issued_append, joined_append, lapsed_append, List.length_append]
  split <;> split <;> split <;> omega

omit [Scalar α] in
theorem TickReport.count_ledger (report : TickReport α) (counter : Counter) :
    report.ledger.counters.count counter =
      (Ledger.issue report.spawned).counters.count counter +
        (Ledger.join report.merged).counters.count counter +
          (Ledger.lapse report.expired).counters.count counter := by
  rw [ledger, Ledger.count_counters_append, Ledger.count_counters_append]

omit [Scalar α] in
/-- A tick sets at most one target and merges at most one pair. -/
theorem TickReport.count_ledger_le_one (report : TickReport α) {counter : Counter}
    (other : counter ≠ .expired) : report.ledger.counters.count counter ≤ 1 := by
  rw [count_ledger]
  cases counter with
  | expired => exact absurd rfl other
  | _ => simp [Ledger.count_counters, Ledger.issue, Ledger.join, Ledger.lapse]

namespace Reply

variable {site : Site α}

theorem count_told_ledger (replies : List (Reply site)) :
    (replies.flatMap (·.told)).count .spawned =
        (Ledger.total (replies.map (·.ledger))).issued.length ∧
      (replies.flatMap (·.told)).count .merged =
        (Ledger.total (replies.map (·.ledger))).joined.length ∧
      (replies.flatMap (·.told)).count .expired =
        (Ledger.total (replies.map (·.ledger))).lapsed.length := by
  induction replies with
  | nil => exact ⟨rfl, rfl, rfl⟩
  | cons reply rest ih =>
      obtain ⟨spawned, merged, expired⟩ := ih
      have here : reply.told.count .spawned = reply.ledger.issued.length ∧
          reply.told.count .merged = reply.ledger.joined.length ∧
          reply.told.count .expired = reply.ledger.lapsed.length := by
        cases reply with
        | traced outcome =>
            cases outcome with
            | ok outcome => cases outcome <;> exact ⟨rfl, rfl, rfl⟩
            | error fault => cases fault <;> exact ⟨rfl, rfl, rfl⟩
        | ticked report =>
            simp [Reply.told, Reply.ledger, Ledger.count_counters]
        | _ => exact ⟨rfl, rfl, rfl⟩
      simp only [List.flatMap_cons, List.count_append, List.map_cons, Ledger.total,
        Ledger.issued_append, Ledger.joined_append, Ledger.lapsed_append, List.length_append]
      omega

/-- A reply tells at most once of everything but expiry. -/
theorem count_told_le_one (reply : Reply site) {counter : Counter} (other : counter ≠ .expired) :
    reply.told.count counter ≤ 1 := by
  cases reply with
  | traced outcome =>
      cases outcome with
      | ok outcome => cases outcome <;> exact List.count_le_length
      | error fault => cases fault <;> first | exact List.count_le_length | exact Nat.zero_le 1
  | ticked report =>
      rw [Reply.told, List.count_cons]
      by_cases ticks : counter = .ticks
      · subst ticks
        simp [Ledger.count_counters]
      · have few := report.count_ledger_le_one other
        simpa [Ne.symm ticks] using few
  | _ => exact Nat.zero_le 1

theorem count_told_le_length (replies : List (Reply site)) (counter : Counter)
    (other : counter ≠ .expired) :
    (replies.flatMap (·.told)).count counter ≤ replies.length := by
  induction replies with
  | nil => exact Nat.le_refl 0
  | cons reply rest ih =>
      have here := count_told_le_one reply other
      rw [List.flatMap_cons, List.count_append, List.length_cons]
      omega

end Reply

/-! ## Counters that explain replies -/

/-- Counters that replies tell of, and attempts to set a target, each with its outcome. -/
structure Explains {site : Site α} (counters : List Counter) (replies : List (Reply site)) :
    Prop where
  told : ∀ counter : Counter, counter.IsTold →
    counters.count counter = (replies.flatMap (·.told)).count counter
  outcomes : counters.count .spawnTried =
    counters.count .spawned + counters.count .spawnUnderCamera + counters.count .spawnOnTarget
  attempts : counters.count .spawnTried ≤ counters.count .ticks

namespace Explains

variable {site : Site α} {counters later : List Counter} {replies others : List (Reply site)}

theorem nil : Explains [] ([] : List (Reply site)) := ⟨fun _ _ => rfl, rfl, Nat.le_refl _⟩

theorem append (first : Explains counters replies) (second : Explains later others) :
    Explains (counters ++ later) (replies ++ others) := by
  refine ⟨fun counter told => ?_, ?_, ?_⟩
  · rw [List.flatMap_append, List.count_append, List.count_append, first.told counter told,
      second.told counter told]
  · have here := first.outcomes
    have there := second.outcomes
    simp only [List.count_append]
    omega
  · have here := first.attempts
    have there := second.attempts
    simp only [List.count_append]
    omega

theorem of_told (reply : Reply site) (noTick : ∀ report, reply ≠ .ticked report) :
    Explains reply.told [reply] := by
  have same : ∀ counter : Counter, reply.told.count counter =
      (List.flatMap (·.told) [reply]).count counter := fun counter => by simp
  cases reply with
  | traced outcome =>
      cases outcome with
      | ok outcome => cases outcome <;> exact ⟨fun counter _ => same counter, rfl, Nat.zero_le _⟩
      | error fault => cases fault <;> exact ⟨fun counter _ => same counter, rfl, Nat.zero_le _⟩
  | ticked report => exact absurd rfl (noTick report)
  | _ => exact ⟨fun counter _ => same counter, rfl, Nat.zero_le _⟩

end Explains

namespace Attempt

variable {result : Option TargetId} {tried : List Counter}

theorem count_told (attempt : Attempt result tried) {counter : Counter} (told : counter.IsTold) :
    tried.count counter = (Ledger.issue result).counters.count counter := by
  cases attempt with
  | untried => cases counter <;> rfl
  | tried verdict =>
      cases verdict <;> cases counter <;> first | rfl | exact absurd told (by decide)

theorem outcomes (attempt : Attempt result tried) :
    tried.count .spawnTried =
      tried.count .spawned + tried.count .spawnUnderCamera + tried.count .spawnOnTarget := by
  cases attempt with
  | untried => rfl
  | tried verdict => cases verdict <;> rfl

theorem count_le_one (attempt : Attempt result tried) : tried.count .spawnTried ≤ 1 := by
  cases attempt with
  | untried => exact Nat.zero_le 1
  | tried verdict => cases verdict <;> exact Nat.le_refl 1

end Attempt

theorem Explains.of_tick {site : Site α} {report : TickReport α} {tried : List Counter}
    (attempt : Attempt report.spawned tried) :
    Explains
      (.ticks :: (tried ++ (Ledger.join report.merged).counters ++
        (Ledger.lapse report.expired).counters)) ([.ticked report] : List (Reply site)) := by
  have outcomes := attempt.outcomes
  have atMostOne := attempt.count_le_one
  refine ⟨fun counter told => ?_, ?_, ?_⟩
  · have same := attempt.count_told told
    simp only [List.flatMap_singleton, Reply.told, TickReport.count_ledger, List.count_cons,
      List.count_append, same]
  · simp [Ledger.count_counters, Ledger.join, Ledger.lapse, outcomes]
  · simp [Ledger.count_counters, Ledger.join, Ledger.lapse]
    omega

/-- Nothing is counted more often than there are replies: targets that expire were set before, and
none is set without an attempt. -/
theorem Explains.count_le {site : Site α} {counters : List Counter} {replies : List (Reply site)}
    (explains : Explains counters replies)
    (settled : counters.count .expired ≤ counters.count .spawned) (counter : Counter) :
    counters.count counter ≤ replies.length := by
  have ticks := explains.told .ticks (by decide)
  have ticking := Reply.count_told_le_length replies .ticks (by decide)
  have outcomes := explains.outcomes
  have attempts := explains.attempts
  by_cases told : counter.IsTold ∧ counter ≠ .expired
  · rw [explains.told counter told.1]
    exact Reply.count_told_le_length replies counter told.2
  · cases counter with
    | spawnTried | spawnUnderCamera | spawnOnTarget | expired => omega
    | _ => exact absurd ⟨by decide, by decide⟩ told

/-! ## Steps -/

namespace Engine

variable {site : Site α} {e : Engine site} {camera : String} {ray : Segment α} {angle : α}

theorem books_traced {step : Step site (Except (Fault α) RayOutcome)}
    (traced : e.Traced camera ray step) :
    e.watch.Books step.engine.watch (Reply.traced step.result : Reply site).told := by
  cases traced with
  | refused entry _ _ same =>
      subst same
      exact Watch.books_count e.watch .inputRejected
  | claimed claim _ _ same =>
      subst same
      exact (Watch.books_offer e.watch site.trackerPlan e.now ray).append
        (Watch.books_count _ .rayClaimed)
  | gathered evidence _ _ _ same =>
      subst same
      exact Watch.books_count e.watch .rayGathered

theorem books_moved {step : Step site (Except (Fault α) RayOutcome)}
    (moved : e.Moved camera angle step) :
    e.watch.Books step.engine.watch (Reply.traced step.result : Reply site).told := by
  cases moved with
  | unknown _ same =>
      subst same
      exact .nil e.watch
  | infinite _ _ same =>
      subst same
      exact Watch.books_count e.watch .inputRejected
  | ray ray _ _ _ traced => exact books_traced traced

theorem books_spawnAt (site : Site α) (w : Watch α) (now : Instant) (focus : Focus α) :
    ∃ tried, Attempt (spawnAt w site now focus).result tried ∧
      w.Books (spawnAt w site now focus).watch tried := by
  unfold spawnAt
  split
  · split
    · rename_i spawned
      exact Watch.books_spawn spawned
    · exact ⟨[], .untried, .nil w⟩
  · exact ⟨[], .untried, .nil w⟩

theorem books_spawning (e : Engine site) :
    ∃ tried, Attempt e.spawning.2.result tried ∧
      e.watch.Books e.spawning.2.watch (.ticks :: tried) := by
  obtain ⟨tried, attempt, books⟩ := books_spawnAt site
    { e.watch.count .ticks with tally := (e.evidence.focus (e.watch.count .ticks).tally).2 } e.now
    e.spawning.1
  have ticking := Watch.books_count e.watch .ticks
  have looking := Watch.books_focus (e.watch.count .ticks) e.evidence
  exact ⟨tried, attempt, (ticking.append looking).append books⟩

theorem books_tick {step : Step site (TickReport α)} (done : e.tick = .ok step) :
    ∃ tried, Attempt step.result.spawned tried ∧
      e.watch.Books step.engine.watch
        (.ticks :: (tried ++ (Ledger.join step.result.merged).counters ++
          (Ledger.lapse step.result.expired).counters)) := by
  obtain ⟨tried, attempt, spawning⟩ := books_spawning e
  simp only [tick, bind_eq_ok] at done
  obtain ⟨expired, expiring, result⟩ := done
  have merging := Watch.books_merge e.spawning.2.watch site.trackerPlan
  have sweeping := Watch.books_expire expiring
  cases result
  exact ⟨tried, attempt, (spawning.append merging).append sweeping⟩

theorem perform_books {command : Command α} {step : Step site (Reply site)}
    (done : e.perform command = .ok step) :
    ∃ counters, e.watch.Books step.engine.watch counters ∧ Explains counters [step.result] := by
  cases command with
  | trace camera ray =>
      simp only [perform, bind_eq_ok] at done
      obtain ⟨traced, tracing, result⟩ := done
      cases result
      exact ⟨_, books_traced (trace_eq_ok tracing), .of_told _ fun _ same => by cases same⟩
  | motion camera angle =>
      simp only [perform, bind_eq_ok] at done
      obtain ⟨traced, moving, result⟩ := done
      cases result
      exact ⟨_, books_moved (motion_eq_ok moving), .of_told _ fun _ same => by cases same⟩
  | tick =>
      simp only [perform, bind_eq_ok] at done
      obtain ⟨ticked, ticking, result⟩ := done
      cases result
      obtain ⟨tried, attempt, books⟩ := books_tick ticking
      exact ⟨_, books, .of_tick attempt⟩
  | advance time =>
      simp only [perform, advance, bind_eq_ok] at done
      obtain ⟨_, ⟨later, after, moved⟩, result⟩ := done
      cases moved
      cases result
      exact ⟨[], .nil e.watch, .of_told .advanced fun _ same => by cases same⟩
  | focus =>
      have same : step = e.focus.2.silently (.focus e.focus.1) := (Except.ok.inj done).symm
      subst same
      exact ⟨[], Watch.books_focus e.watch e.evidence, .of_told (.focus _) fun _ same => by cases same⟩
  | heatmap =>
      have same : step = e.heatmap.2.silently (.heatmap e.heatmap.1) := (Except.ok.inj done).symm
      subst same
      exact ⟨[], Watch.books_heatmap e.watch e.evidence,
        .of_told (.heatmap _) fun _ same => by cases same⟩
  | closest point =>
      cases done
      exact ⟨[], .nil e.watch, .of_told (.closest _) fun _ same => by cases same⟩
  | tally =>
      cases done
      exact ⟨[], .nil e.watch, .of_told (.tally _) fun _ same => by cases same⟩
  | settings =>
      cases done
      exact ⟨[], .nil e.watch, .of_told (.settings _) fun _ same => by cases same⟩

theorem performAll_books {commands : List (Command α)} {run : Step site (List (Reply site))}
    (done : e.performAll commands = .ok run) :
    ∃ counters, e.watch.Books run.engine.watch counters ∧ Explains counters run.result := by
  induction commands generalizing e run with
  | nil =>
      cases done
      exact ⟨[], .nil e.watch, .nil⟩
  | cons command rest ih =>
      obtain ⟨step, others, one, later, rfl⟩ := performAll_cons_eq_ok.1 done
      obtain ⟨first, firstBooks, firstExplains⟩ := perform_books one
      obtain ⟨counters, books, explains⟩ := ih later
      exact ⟨first ++ counters, firstBooks.append books, firstExplains.append explains⟩

/-! ## Runs -/

/-- What a tally shows after the replies of a run. -/
structure Audited (e : Engine site) (replies : List (Reply site)) : Prop where
  told : ∀ counter : Counter, counter.IsTold →
    (e.tally.shown counter).toNat = (replies.flatMap (·.told)).count counter
  outcomes : e.tally.spawnTried.toNat =
    e.tally.spawned.toNat + e.tally.spawnUnderCamera.toNat + e.tally.spawnOnTarget.toNat
  attempts : e.tally.spawnTried.toNat ≤ e.tally.ticks.toNat
  balance : e.tally.spawned.toNat =
    e.tally.merged.toNat + e.tally.expired.toNat + e.targets.length
  live : e.tally.liveTargets = Scalar.ofNat e.targets.length

theorem run_settled {first : Engine site} {commands : List (Command α)}
    {run : Step site (List (Reply site))} {counters : List Counter}
    (created : Engine.create site = .ok first) (done : first.performAll commands = .ok run)
    (explains : Explains counters run.result) :
    counters.count .spawned =
      counters.count .merged + counters.count .expired + run.engine.targets.length := by
  obtain ⟨issued, joined, lapsed⟩ := Reply.count_told_ledger run.result
  have settled := (run_accounts created done).settled.length_eq
  have live : run.engine.targets.length = run.engine.watch.tracker.ids.length := by
    rw [targets, ← Tracker.ids_snapshot, List.length_map]
  rw [Ledger.gone, List.length_append, List.length_append] at settled
  rw [explains.told .spawned (by decide), explains.told .merged (by decide),
    explains.told .expired (by decide), issued, joined, lapsed, live]
  omega

theorem Audited.of_explains {counters : List Counter} {replies : List (Reply site)}
    (explains : Explains counters replies)
    (shows : ∀ counter, (e.tally.shown counter).toNat = counters.count counter)
    (settled : counters.count .spawned =
      counters.count .merged + counters.count .expired + e.targets.length)
    (gauged : e.watch.Gauged) : e.Audited replies := by
  have tried := shows .spawnTried
  have underCamera := shows .spawnUnderCamera
  have onTarget := shows .spawnOnTarget
  have spawned := shows .spawned
  have merged := shows .merged
  have expired := shows .expired
  have ticks := shows .ticks
  simp only [Tally.shown] at tried underCamera onTarget spawned merged expired ticks
  have outcomes := explains.outcomes
  have attempts := explains.attempts
  refine ⟨fun counter told => ?_, ?_, ?_, ?_, ?_⟩
  · rw [shows counter, explains.told counter told]
  · omega
  · omega
  · omega
  · rw [targets, Tracker.snapshot, List.length_map]
    exact gauged

/-- After every run of fewer than 2^64 commands the counters show what its replies tell. -/
theorem counters_agree_with_replies {first : Engine site} {commands : List (Command α)}
    {run : Step site (List (Reply site))} (created : Engine.create site = .ok first)
    (done : first.performAll commands = .ok run) (bounded : commands.length < 2 ^ 64) :
    run.engine.Audited run.result := by
  obtain ⟨counters, books, explains⟩ := performAll_books done
  have settled := run_settled created done explains
  have start := create_eq_ok created
  subst start
  refine .of_explains explains (fun counter => ?_) settled (books.gauged rfl)
  have zero : (start site).watch.tally.shown counter = 0 := by cases counter <;> rfl
  have below := explains.count_le (by omega) counter
  rw [length_result done] at below
  have fits : counters.count counter < UInt64.size := Nat.lt_of_le_of_lt below bounded
  rw [tally, books.counts counter, zero, UInt64.zero_add]
  exact UInt64.toNat_ofNat_of_lt fits

/-- The third ray is claimed by the target that the first two set. -/
theorem claimingRun_audited : ∃ run,
    (start yard).performAll claimingRun = .ok run ∧
      run.engine.tally.rayClaimed = 1 ∧ run.engine.tally.spawned = 1 ∧
      run.engine.Audited run.result := by
  obtain ⟨run, done, claimed, spawned, _⟩ := claimingRun_outcome
  exact ⟨run, done, claimed, spawned, counters_agree_with_replies rfl done (by decide)⟩

end Engine

end Sightline
