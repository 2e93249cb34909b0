import Sightline.Proofs.Tracker.Lives
import Sightline.Proofs.Tracker.Turns

/-!
# The chronicle of a tracker

A bystander who notes the lives of all targets, numbered in the order in which the targets were set,
knows of the live targets all but their places: they are the ones whose lives last, in the order of
their numbers, and each shows the latest refresh of its life.  Lives are told apart by their numbers,
so none of this needs the ids to be different.
-/

set_option autoImplicit false

namespace Sightline

variable {α : Type} [Scalar α]

/-! ## What a bystander notes -/

def IdIssuer.nth (number : Nat) : TargetId := ⟨UInt64.ofNat (number + 1)⟩

omit [Scalar α] in
theorem Target.not_isStale (target : Target α) (now : Instant) :
    (!target.isStale now) = decide (now.nanos ≤ target.refreshed.nanos + target.ttl.nanos) := by
  rw [isStale, Bool.eq_iff_iff]
  simp

/-- What of a target its life tells: its id, and when it was refreshed for how long. -/
def Tracked.standing (target : Tracked α) : TargetId × Instant × Duration :=
  (target.id, target.refreshed, target.ttl)

def Life.standing (ttl : Duration) (entry : Nat × Life) : TargetId × Instant × Duration :=
  (IdIssuer.nth entry.1, entry.2.latest, ttl)

/-- An expiry keeps just the targets that were refreshed no longer than their time to live ago, each
as it was, and names the others in their order. -/
structure Tracker.Drops (t : Tracker α) (ttl : Duration) (now : Instant) (gone : List TargetId)
    (after : Tracker α) : Prop where
  kept : after.targets = t.targets.filter fun target =>
    decide (now.nanos ≤ target.refreshed.nanos + ttl.nanos)
  gone : gone = (t.targets.filter fun target =>
    decide (target.refreshed.nanos + ttl.nanos < now.nanos)).map (·.id)

omit [Scalar α] in
theorem Tracker.expire_drops {t after : Tracker α} {ttl : Duration} {now : Instant}
    {gone : List TargetId} (own : ∀ target ∈ t.targets, target.ttl = ttl)
    (expired : t.expire now = .ok (gone, after)) : t.Drops ttl now gone after := by
  obtain ⟨rfl, rfl⟩ := expire_eq_ok expired
  refine ⟨List.filter_congr fun target live => ?_, congrArg _ (List.filter_congr fun target live => ?_)⟩
  · rw [target.not_isStale, own target live]
  · rw [Target.isStale, own target live]

namespace Lookout

variable {plan : TrackerPlan α} {l after : Lookout α} {lives : List Life}

/-- The place among the live targets of the one that a merge removes. -/
def casualty? (plan : TrackerPlan α) (l : Lookout α) : Option Nat :=
  (Tracker.overlappingPair? l.tracker.targets plan.mergeSlack).map (·.2.2)

/-- What a bystander notes while a command is carried out: a ray belongs to the target that claims
it, a merge ends the life of the second target, and an expiry looks at everybody. -/
def record (plan : TrackerPlan α) (l : Lookout α) (lives : List Life) : TrackerCommand α → List Life
  | .offer ray =>
    match l.claimant? ray with
    | some place => Lives.amend plan.ttl (Life.claim l.now) place lives
    | none => lives
  | .spawn candidate =>
    match l.tracker.spawn plan l.now candidate with
    | .ok (.spawned _, _) => lives ++ [.begin l.now]
    | _ => lives
  | .merge =>
    match l.casualty? plan with
    | some place => Lives.amend plan.ttl Life.join place lives
    | none => lives
  | .expire => lives.map (Life.sweep l.now)
  | .advance _ => lives

def recordAll (plan : TrackerPlan α) (l : Lookout α) (lives : List Life) :
    List (TrackerCommand α) → List Life
  | [] => lives
  | command :: later =>
    match l.perform plan command with
    | .ok (_, next) => next.recordAll plan (l.record plan lives command) later
    | .error _ => lives

/-- The lives that have been noted are those of the targets. -/
structure Remembers (plan : TrackerPlan α) (l : Lookout α) (lives : List Life) : Prop where
  standing : l.tracker.targets.map Tracked.standing =
    (Lives.lasting plan.ttl lives).map (Life.standing plan.ttl)
  issuer : l.tracker.issuer = ⟨UInt64.ofNat lives.length⟩
  timely : ∀ life ∈ lives, life.Timely l.now

omit [Scalar α] in
theorem remembers_start (plan : TrackerPlan α) : Remembers plan start [] :=
  ⟨rfl, rfl, fun _ member => (by cases member)⟩

omit [Scalar α] in
theorem Remembers.ttl (remembers : Remembers plan l lives) {target : Tracked α}
    (live : target ∈ l.tracker.targets) : target.ttl = plan.ttl := by
  have stands : target.standing ∈ l.tracker.targets.map Tracked.standing :=
    List.mem_map_of_mem live
  rw [remembers.standing] at stands
  obtain ⟨entry, _, same⟩ := List.mem_map.1 stands
  exact (congrArg (·.2.2) same).symm

omit [Scalar α] in
theorem Remembers.refreshed_le (remembers : Remembers plan l lives) {target : Tracked α}
    (live : target ∈ l.tracker.targets) : target.refreshed.nanos ≤ l.now.nanos := by
  have stands : target.standing ∈ l.tracker.targets.map Tracked.standing :=
    List.mem_map_of_mem live
  rw [remembers.standing] at stands
  obtain ⟨entry, lasting, same⟩ := List.mem_map.1 stands
  obtain ⟨_, _, noted, _⟩ := Lives.mem_lastingFrom.1 lasting
  have timely := remembers.timely entry.2 (List.mem_of_getElem? noted)
  have latest : entry.2.latest = target.refreshed := congrArg (·.2.1) same
  exact latest ▸ timely.past _ entry.2.latest_mem

/-! ## One command -/

theorem Remembers.claim (remembers : Remembers plan l lives) (claim : Claim α) :
    Remembers plan
      { l with tracker := { l.tracker with
        targets := l.tracker.targets.modify claim.index fun target =>
          target.nudge claim.middle plan.sensitivity l.now } }
      (Lives.amend plan.ttl (Life.claim l.now) claim.index lives) := by
  refine ⟨?_, ?_, fun life member => ?_⟩
  · have nudged := map_modify (f := Tracked.standing)
      (h := fun standing => (standing.1, l.now, standing.2.2))
      (g := fun target => target.nudge claim.middle plan.sensitivity l.now)
      (fun _ => rfl) l.tracker.targets claim.index
    have noted := map_modify (f := Life.standing plan.ttl)
      (h := fun standing => (standing.1, l.now, standing.2.2))
      (g := fun entry => (entry.1, entry.2.claim l.now))
      (fun _ => rfl) (Lives.lasting plan.ttl lives) claim.index
    rw [nudged, remembers.standing, ← noted, Lives.lasting, Lives.lasting,
      Lives.lastingFrom_amend_kept fun _ lasts => lasts.claim l.now]
  · rw [Lives.length_amend]
    exact remembers.issuer
  · rcases Lives.mem_amend member with same | ⟨before, old, rfl⟩
    · exact remembers.timely life same
    · exact (remembers.timely before old).claim

omit [Scalar α] in
theorem Remembers.spawn (remembers : Remembers plan l lives) (candidate : Point α) :
    Remembers plan
      { l with tracker := ⟨l.tracker.targets ++
        [⟨⟨candidate, plan.radius, plan.ttl, l.now⟩, l.tracker.issuer.next.1⟩],
          l.tracker.issuer.next.2⟩ }
      (lives ++ [.begin l.now]) := by
  refine ⟨?_, ?_, fun life member => ?_⟩
  · have number : l.tracker.issuer.next.1 = IdIssuer.nth lives.length := by
      rw [remembers.issuer, IdIssuer.nth, UInt64.ofNat_add]
      rfl
    rw [List.map_append, remembers.standing, Lives.lasting, Lives.lasting,
      Lives.lastingFrom_append, List.map_append, number, Nat.zero_add]
    simp only [Lives.lastingFrom, Life.lasts_begin, if_true]
    rfl
  · rw [remembers.issuer, List.length_append, List.length_singleton, UInt64.ofNat_add]
    rfl
  · rcases List.mem_append.1 member with old | new
    · exact remembers.timely life old
    · rw [List.mem_singleton.1 new]
      exact Life.timely_begin l.now

omit [Scalar α] in
theorem Remembers.merge (remembers : Remembers plan l lives) (first second : Nat)
    (position : Point α) :
    Remembers plan
      { l with tracker := { l.tracker with
        targets := (l.tracker.targets.modify first (·.moveTo position)).eraseIdx second } }
      (Lives.amend plan.ttl Life.join second lives) := by
  refine ⟨?_, ?_, fun life member => ?_⟩
  · have moved := map_modify (f := Tracked.standing) (h := id)
      (g := fun target : Tracked α => target.moveTo position) (fun _ => rfl)
      l.tracker.targets first
    rw [List.modify_id] at moved
    rw [← List.eraseIdx_map, moved, remembers.standing, Lives.lasting, Lives.lasting,
      Lives.lastingFrom_amend_ended (Life.not_lasts_join _), List.eraseIdx_map]
  · rw [Lives.length_amend]
    exact remembers.issuer
  · rcases Lives.mem_amend member with same | ⟨before, old, rfl⟩
    · exact remembers.timely life same
    · exact (remembers.timely before old).join

omit [Scalar α] in
theorem Remembers.expire (remembers : Remembers plan l lives) :
    Remembers plan
      { l with tracker := { l.tracker with
        targets := l.tracker.targets.filter fun target => !target.isStale l.now } }
      (lives.map (Life.sweep l.now)) := by
  refine ⟨?_, ?_, fun life member => ?_⟩
  · have fresh : l.tracker.targets.filter (fun target => !target.isStale l.now) =
        l.tracker.targets.filter ((fun standing : TargetId × Instant × Duration =>
          decide (l.now.nanos ≤ standing.2.1.nanos + standing.2.2.nanos)) ∘ Tracked.standing) := by
      exact List.filter_congr fun target _ => target.not_isStale l.now
    rw [fresh, ← List.filter_map, remembers.standing, List.filter_map, Lives.lasting, Lives.lasting,
      Lives.lastingFrom_sweep, List.map_map]
    rfl
  · rw [List.length_map]
    exact remembers.issuer
  · obtain ⟨before, old, rfl⟩ := List.mem_map.1 member
    exact (remembers.timely before old).sweep

theorem Remembers.record {command : TrackerCommand α} (remembers : Remembers plan l lives)
    (turn : l.Turn plan command after) : Remembers plan after (l.record plan lives command) := by
  cases turn with
  | missed unclaimed =>
      rw [Lookout.record, unclaimed]
      exact remembers
  | claimed claim _ claimant =>
      rw [Lookout.record, claimant]
      exact remembers.claim claim
  | faulty refused =>
      rw [Lookout.record, refused]
      exact remembers
  | @declined candidate verdict tried none =>
      rw [Lookout.record, tried]
      cases verdict with
      | underCamera | onTarget => exact remembers
      | spawned id => cases none
  | @set candidate spawned =>
      rw [Lookout.record, spawned]
      exact remembers.spawn candidate
  | apart none =>
      rw [Lookout.record, casualty?, none]
      exact remembers
  | @merged first second position found =>
      rw [Lookout.record, casualty?, found]
      exact remembers.merge first.2 second.2 position
  | expired => exact remembers.expire
  | waited moved =>
      obtain rfl := Instant.after_eq_ok moved
      exact ⟨remembers.standing, remembers.issuer, fun life member =>
        (remembers.timely life member).mono (Nat.le_add_right _ _)⟩

theorem length_record {command : TrackerCommand α} {reply : TrackerReply α}
    (done : l.perform plan command = .ok (reply, after)) :
    (l.record plan lives command).length = lives.length + reply.ledger.issued.length := by
  cases command with
  | offer ray =>
      have same : (l.record plan lives (.offer ray)).length = lives.length := by
        rw [record]
        split
        · exact Lives.length_amend _ _
        · rfl
      simp only [perform] at done
      split at done <;> cases done <;> exact same
  | spawn candidate =>
      simp only [perform] at done
      split at done
      · rename_i verdict tracker spawned
        cases done
        rw [record, spawned]
        cases verdict with
        | underCamera | onTarget => rfl
        | spawned id => exact List.length_append
      · rename_i refused
        cases done
        rw [record, refused]
        rfl
  | merge =>
      have same : (l.record plan lives .merge).length = lives.length := by
        rw [record]
        split
        · exact Lives.length_amend _ _
        · rfl
      simp only [perform] at done
      split at done <;> cases done <;> exact same
  | expire =>
      simp only [perform, bind_eq_ok] at done
      obtain ⟨_, _, result⟩ := done
      cases result
      exact List.length_map _
  | advance time =>
      simp only [perform, bind_eq_ok] at done
      obtain ⟨_, _, result⟩ := done
      cases result
      rfl

/-! ## A whole run -/

variable {commands : List (TrackerCommand α)} {replies : List (TrackerReply α)}

theorem Remembers.recordAll (remembers : Remembers plan l lives)
    (done : l.performAll plan commands = .ok (replies, after)) :
    Remembers plan after (l.recordAll plan lives commands) := by
  induction commands generalizing l lives replies with
  | nil =>
      cases done
      exact remembers
  | cons command rest ih =>
      obtain ⟨reply, next, others, one, later, rfl⟩ := performAll_cons_eq_ok.1 done
      rw [Lookout.recordAll, one]
      exact ih (remembers.record (perform_turn one)) later

theorem length_recordAll (lives : List Life)
    (done : l.performAll plan commands = .ok (replies, after)) :
    (l.recordAll plan lives commands).length =
      lives.length + (Ledger.total (replies.map (·.ledger))).issued.length := by
  induction commands generalizing l lives replies with
  | nil =>
      cases done
      rfl
  | cons command rest ih =>
      obtain ⟨reply, next, others, one, later, rfl⟩ := performAll_cons_eq_ok.1 done
      rw [recordAll, one, ih _ later, length_record one, List.map_cons, Ledger.total,
        Ledger.issued_append, List.length_append, Nat.add_assoc]

/-! ## What the chronicle says -/

/-- A live target and the life that is noted for its place say the same. -/
structure Keeps (plan : TrackerPlan α) (l : Lookout α) (lives : List Life) (place : Nat)
    (target : Tracked α) : Prop where
  live : l.tracker.targets[place]? = some target
  noted : ((Lives.lasting plan.ttl lives)[place]?).map (Life.standing plan.ttl) =
    some target.standing

/-- What the chronicle of a run says of the targets that the run leaves. -/
structure Chronicled (plan : TrackerPlan α) (commands : List (TrackerCommand α))
    (replies : List (TrackerReply α)) (after : Lookout α) (lives : List Life) : Prop where
  /-- The lives are those of the ids that were given out, one after the other. -/
  issued : (Ledger.total (replies.map (·.ledger))).issued = IdIssuer.fresh.take lives.length
  /-- The live targets are those whose lives last, each with its latest refresh. -/
  standing : after.tracker.targets.map Tracked.standing =
    (Lives.lasting plan.ttl lives).map (Life.standing plan.ttl)
  latest : ∀ life ∈ lives, life.latest ∈ life.refreshes ∧
    ∀ time ∈ life.refreshes, time.nanos ≤ life.latest.nanos
  live : ∀ id, id ∈ after.tracker.ids ↔
    ∃ number life, lives[number]? = some life ∧ IdIssuer.nth number = id ∧ life.Lasts plan.ttl
  /-- A ray is noted in the life of the target that claims it. -/
  claims : ∀ earlier ray later, commands = earlier ++ .offer ray :: later →
    ∃ before reached, start.performAll plan earlier = .ok (before, reached) ∧
      (replies[earlier.length]? = some (.offered (.ok true)) →
        ∃ place target, reached.claimant? ray = some place ∧
          reached.Keeps plan (start.recordAll plan [] earlier) place target ∧
          (target.disc.crossing? ray).isSome = true)
  /-- A merge is noted in the life of the target that it removes. -/
  merges : ∀ earlier merge later, commands = earlier ++ .merge :: later →
    ∃ before reached, start.performAll plan earlier = .ok (before, reached) ∧
      (replies[earlier.length]? = some (.merged (some merge)) →
        ∃ place target, reached.casualty? plan = some place ∧
          reached.Keeps plan (start.recordAll plan [] earlier) place target ∧
          target.id = merge.removed)
  expiries : ∀ earlier later, commands = earlier ++ .expire :: later →
    ∃ before reached gone tracker, start.performAll plan earlier = .ok (before, reached) ∧
      reached.perform plan .expire = .ok (.expired gone, { reached with tracker := tracker }) ∧
      replies[earlier.length]? = some (.expired gone) ∧
      reached.tracker.Drops plan.ttl reached.now gone tracker

omit [Scalar α] in
theorem Remembers.mem_ids (remembers : Remembers plan l lives) (id : TargetId) :
    id ∈ l.tracker.ids ↔
      ∃ number life, lives[number]? = some life ∧ IdIssuer.nth number = id ∧
        life.Lasts plan.ttl := by
  have ids : l.tracker.ids = (Lives.lasting plan.ttl lives).map fun entry => IdIssuer.nth entry.1 := by
    have first := congrArg (List.map (·.1)) remembers.standing
    rw [List.map_map, List.map_map] at first
    exact first
  rw [ids, List.mem_map]
  constructor
  · rintro ⟨entry, member, named⟩
    obtain ⟨place, numbered, found, lasts⟩ := Lives.mem_lastingFrom.1 member
    rw [Nat.zero_add] at numbered
    exact ⟨place, entry.2, found, numbered ▸ named, lasts⟩
  · rintro ⟨number, life, found, named, lasts⟩
    exact ⟨(number, life), Lives.mem_lastingFrom.2 ⟨number, (Nat.zero_add _).symm, found, lasts⟩, named⟩

omit [Scalar α] in
theorem Remembers.keeps (remembers : Remembers plan l lives) {place : Nat} {target : Tracked α}
    (live : l.tracker.targets[place]? = some target) : l.Keeps plan lives place target := by
  have stands := congrArg (·[place]?) remembers.standing
  simp only [List.getElem?_map, live] at stands
  exact ⟨live, stands.symm⟩

theorem Remembers.claimed (remembers : Remembers plan l lives) {ray : Segment α}
    (done : l.perform plan (.offer ray) = .ok (.offered (.ok true), after)) :
    ∃ place target, l.claimant? ray = some place ∧ l.Keeps plan lives place target ∧
      (target.disc.crossing? ray).isSome = true := by
  simp only [perform] at done
  split at done
  · rename_i claimed tracker offered
    cases done
    rcases Tracker.offer_eq_ok offered with ⟨missed, _⟩ | ⟨claim, _, best, _⟩
    · cases missed
    · obtain ⟨target, crossing, live, crossed, _⟩ := Tracker.claim?_eq_some best
      refine ⟨claim.index, target, ?_, remembers.keeps live, by rw [crossed]; rfl⟩
      rw [claimant?, if_pos (Tracker.isFinite_of_offer offered), best]
      rfl
  · cases done

theorem Remembers.merged (remembers : Remembers plan l lives) {merge : Merge α}
    (done : l.perform plan .merge = .ok (.merged (some merge), after)) :
    ∃ place target, l.casualty? plan = some place ∧ l.Keeps plan lives place target ∧
      target.id = merge.removed := by
  simp only [perform] at done
  split at done
  · rename_i merge tracker merged
    cases done
    obtain ⟨first, second, found, mergeEq, _⟩ := Tracker.merge?_eq_some merged
    obtain ⟨_, live, _, _⟩ := Tracker.overlappingPair?_eq_some found
    refine ⟨second.2, second.1, ?_, remembers.keeps live, ?_⟩
    · rw [casualty?, found]
      rfl
    · rw [mergeEq]
  · cases done

theorem chronicled (done : start.performAll plan commands = .ok (replies, after)) :
    Chronicled plan commands replies after (start.recordAll plan [] commands) := by
  have remembers := (remembers_start plan).recordAll done
  refine ⟨?_, remembers.standing, fun life member => ?_, remembers.mem_ids, ?_, ?_, ?_⟩
  · have accounts := performAll_accounts Tracker.Accounts.empty done
    have length := length_recordAll [] done
    rw [List.length_nil, Nat.zero_add] at length
    rw [length]
    exact accounts.issued
  · exact ⟨life.latest_mem, (remembers.timely life member).le_latest⟩
  · intro earlier ray later split
    subst split
    obtain ⟨before, reached, reply, next, first, one, replied⟩ := performAll_at done
    refine ⟨before, reached, first, fun claimed => ?_⟩
    rw [replied] at claimed
    cases claimed
    exact ((remembers_start plan).recordAll first).claimed one
  · intro earlier merge later split
    subst split
    obtain ⟨before, reached, reply, next, first, one, replied⟩ := performAll_at done
    refine ⟨before, reached, first, fun merged => ?_⟩
    rw [replied] at merged
    cases merged
    exact ((remembers_start plan).recordAll first).merged one
  · intro earlier later split
    subst split
    obtain ⟨before, reached, reply, next, first, one, replied⟩ := performAll_at done
    have expiring := one
    simp only [perform, bind_eq_ok] at one
    obtain ⟨⟨gone, tracker⟩, expired, result⟩ := one
    cases result
    have remembered := (remembers_start plan).recordAll first
    exact ⟨before, reached, gone, tracker, first, expiring, replied,
      Tracker.expire_drops (fun _ => remembered.ttl) expired⟩

end Lookout

end Sightline
