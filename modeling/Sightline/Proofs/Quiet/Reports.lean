import Mathlib.Data.List.Induction
import Mathlib.Logic.Function.Basic
import Sightline.Quiet

/-!
# Forgetting quiet names changes no report

What is forgotten of a name was last reported an interval ago or longer, so the name is due with or
without it.  Names are therefore reported just as by somebody who never forgets a report.
-/

set_option autoImplicit false

namespace Sightline

/-- A name that came up, when it did, and whether it was reported. -/
structure Mention where
  time : Instant
  name : String
  reported : Bool
deriving Repr, DecidableEq

namespace Mention

def occasion (mention : Mention) : Instant × String := (mention.time, mention.name)

/-! ## Reports without forgetting -/

/-- The last report of every name. -/
abbrev Memory := String → Option Instant

def record (memory : Memory) (mention : Mention) : Memory :=
  if mention.reported then Function.update memory mention.name (some mention.time) else memory

def memory (mentions : List Mention) : Memory := mentions.foldl record fun _ => none

def isDue (interval : Duration) (memory : Memory) (now : Instant) (name : String) : Bool :=
  match memory name with
  | none => true
  | some last => decide (interval.nanos ≤ (now.since last).nanos)

/-- What is reported of names that come up in turn if every report is remembered for ever. -/
def remembering (interval : Duration) (occasions : List (Instant × String)) : List Mention :=
  occasions.foldl (fun mentions occasion =>
    mentions ++ [⟨occasion.1, occasion.2, isDue interval (memory mentions) occasion.1 occasion.2⟩]) []

theorem remembering_append (interval : Duration) (occasions : List (Instant × String))
    (now : Instant) (name : String) :
    remembering interval (occasions ++ [(now, name)]) =
      remembering interval occasions ++
        [⟨now, name, isDue interval (memory (remembering interval occasions)) now name⟩] := by
  rw [remembering, List.foldl_append]
  rfl

theorem memory_append (mentions : List Mention) (mention : Mention) (name : String) :
    memory (mentions ++ [mention]) name =
      if mention.reported ∧ name = mention.name then some mention.time else memory mentions name := by
  simp only [memory, List.foldl_append, List.foldl_cons, List.foldl_nil, record]
  cases mention.reported with
  | false => simp
  | true => simp [Function.update_apply]

theorem exists_of_memory {mentions : List Mention} {name : String} {last : Instant}
    (remembered : memory mentions name = some last) :
    ∃ mention ∈ mentions, mention.reported = true ∧ mention.name = name ∧ mention.time = last := by
  induction mentions using List.reverseRecOn with
  | nil => cases remembered
  | append_singleton earlier mention ih =>
      rw [memory_append] at remembered
      split at remembered
      · rename_i reported
        cases remembered
        exact ⟨mention, by simp, reported.1, reported.2.symm, rfl⟩
      · obtain ⟨other, member, rest⟩ := ih remembered
        exact ⟨other, List.mem_append_left _ member, rest⟩

/-- The times of the mentions never go back. -/
def Ascending (mentions : List Mention) : Prop :=
  mentions.Pairwise fun first second => first.time.nanos ≤ second.time.nanos

theorem memory_of_reported {mentions : List Mention} (ascending : Ascending mentions)
    {mention : Mention} (member : mention ∈ mentions) (reported : mention.reported = true) :
    ∃ last, memory mentions mention.name = some last ∧ mention.time.nanos ≤ last.nanos := by
  induction mentions using List.reverseRecOn with
  | nil => cases member
  | append_singleton earlier newest ih =>
      obtain ⟨earlierAscending, _, before⟩ := List.pairwise_append.1 ascending
      rw [memory_append]
      split
      · refine ⟨newest.time, rfl, ?_⟩
        rcases List.mem_append.1 member with old | new
        · exact before mention old newest List.mem_cons_self
        · exact Nat.le_of_eq (congrArg (·.time.nanos) (List.mem_singleton.1 new))
      · rename_i other
        rcases List.mem_append.1 member with old | new
        · exact ih earlierAscending old
        · rw [List.mem_singleton] at new
          subst new
          exact absurd ⟨reported, rfl⟩ other

end Mention

namespace Quiet

open Mention

variable {interval : Duration} {mentions : List Mention} {q : Quiet}

/-! ## Reports with forgetting -/

/-- The mentions that have led to what is stored, from the first on. -/
inductive Logs (interval : Duration) : List Mention → Quiet → Prop
  | nothing : Logs interval [] .none
  | mention {mentions : List Mention} {q : Quiet} (now : Instant) (name : String)
      (logged : Logs interval mentions q) :
      Logs interval (mentions ++ [⟨now, name, (q.report interval now name).1⟩])
        (q.report interval now name).2

/-- What is stored is remembered too; what is remembered and not stored has become too old to matter
by the time of some mention. -/
structure Follows (q : Quiet) (interval : Duration) (mentions : List Mention) : Prop where
  stored : ∀ name last, q.reported.get? name = some last → memory mentions name = some last
  forgotten : ∀ name last, q.reported.get? name = Option.none → memory mentions name = some last →
    ∃ mention ∈ mentions, interval.nanos ≤ (mention.time.since last).nanos

theorem get?_report (q : Quiet) {now : Instant} {name : String}
    (due : q.isDue interval now name = true) (other : String) :
    (q.report interval now name).2.reported.get? other =
      if other = name then some now
      else (q.reported.get? other).filter fun last =>
        decide ((now.since last).nanos < interval.nanos) := by
  rw [report, if_pos due]
  simp only [Directory.get?_insert, Directory.get?_filter]

theorem report_fst (q : Quiet) (now : Instant) (name : String) :
    (q.report interval now name).1 = q.isDue interval now name := by
  unfold report
  split
  · rename_i due
    exact due.symm
  · rename_i quiet
    exact (Bool.eq_false_iff.2 quiet).symm

/-- Time is what makes forgetting harmless: what was too old at some mention is too old ever after. -/
theorem Follows.isDue_eq (follows : q.Follows interval mentions) {now : Instant}
    (past : ∀ mention ∈ mentions, mention.time.nanos ≤ now.nanos) (name : String) :
    q.isDue interval now name = Mention.isDue interval (memory mentions) now name := by
  unfold isDue Mention.isDue
  cases stored : q.reported.get? name with
  | some last => rw [follows.stored name last stored]
  | none =>
      cases remembered : memory mentions name with
      | none => rfl
      | some last =>
          obtain ⟨mention, member, old⟩ := follows.forgotten name last stored remembered
          have since := past mention member
          simp only [Instant.since] at old ⊢
          exact (decide_eq_true (by omega)).symm

theorem Follows.report (follows : q.Follows interval mentions) (now : Instant) (name : String) :
    (q.report interval now name).2.Follows interval
      (mentions ++ [⟨now, name, (q.report interval now name).1⟩]) := by
  rw [report_fst]
  cases due : q.isDue interval now name with
  | false =>
      have same : (q.report interval now name).2 = q := by
        rw [Quiet.report, due]
        rfl
      rw [same]
      refine ⟨?_, ?_⟩
      · intro other last stored
        simpa [memory_append] using follows.stored other last stored
      · intro other last absent remembered
        rw [memory_append, if_neg (by simp)] at remembered
        obtain ⟨mention, member, old⟩ := follows.forgotten other last absent remembered
        exact ⟨mention, List.mem_append_left _ member, old⟩
  | true =>
      refine ⟨?_, ?_⟩
      · intro other last stored
        rw [get?_report q due] at stored
        rw [memory_append]
        by_cases own : other = name
        · simpa [own] using stored
        · rw [if_neg own, Option.filter_eq_some_iff] at stored
          simpa [own] using follows.stored other last stored.1
      · intro other last absent remembered
        rw [get?_report q due] at absent
        rw [memory_append] at remembered
        by_cases own : other = name
        · simp [own] at absent
        · rw [if_neg own] at absent
          simp only [own, and_false, if_false] at remembered
          cases stored : q.reported.get? other with
          | none =>
              obtain ⟨mention, member, old⟩ := follows.forgotten other last stored remembered
              exact ⟨mention, List.mem_append_left _ member, old⟩
          | some still =>
              -- This report forgets the name: it is the mention by whose time the last one is too old.
              have same := follows.stored other still stored
              rw [remembered, Option.some.injEq] at same
              subst same
              refine ⟨_, List.mem_append_right _ List.mem_cons_self, ?_⟩
              simpa [stored] using absent

theorem Logs.follows (logs : Logs interval mentions q) : q.Follows interval mentions := by
  induction logs with
  | nothing => exact ⟨nofun, nofun⟩
  | mention now name _ ih => exact ih.report now name

/-! ## Logs -/

theorem Logs.last {earlier : List Mention} {mention : Mention}
    (logs : Logs interval (earlier ++ [mention]) q) :
    ∃ before, Logs interval earlier before ∧
      before.report interval mention.time mention.name = (mention.reported, q) := by
  generalize whole : earlier ++ [mention] = mentions at logs
  cases logs with
  | nothing => simp at whole
  | mention now name logged =>
      obtain ⟨rfl, single⟩ := List.append_inj' whole rfl
      cases single
      exact ⟨_, logged, rfl⟩

theorem Logs.exists_before {earlier later : List Mention}
    (logs : Logs interval (earlier ++ later) q) : ∃ before, Logs interval earlier before := by
  induction later using List.reverseRecOn generalizing q with
  | nil => exact ⟨q, by simpa using logs⟩
  | append_singleton others mention ih =>
      rw [← List.append_assoc] at logs
      obtain ⟨before, logged, _⟩ := logs.last
      exact ih logged

/-- Each mention is reported as the memory of all those before it says. -/
theorem Logs.reported_eq {earlier later : List Mention} {mention : Mention}
    (logs : Logs interval (earlier ++ mention :: later) q)
    (ascending : Ascending (earlier ++ mention :: later)) :
    mention.reported =
      Mention.isDue interval (memory earlier) mention.time mention.name := by
  rw [List.append_cons] at logs
  obtain ⟨after, upTo⟩ := logs.exists_before
  obtain ⟨before, logged, reported⟩ := upTo.last
  have past : ∀ other ∈ earlier, other.time.nanos ≤ mention.time.nanos := fun other member =>
    (List.pairwise_append.1 ascending).2.2 other member mention List.mem_cons_self
  have answer := congrArg Prod.fst reported
  rw [report_fst, logged.follows.isDue_eq past] at answer
  exact answer.symm

theorem Logs.eq_remembering (logs : Logs interval mentions q) (ascending : Ascending mentions) :
    mentions = remembering interval (mentions.map occasion) := by
  induction mentions using List.reverseRecOn generalizing q with
  | nil => rfl
  | append_singleton earlier mention ih =>
      have reported := logs.reported_eq ascending
      obtain ⟨before, logged, _⟩ := logs.last
      have same := ih logged (List.pairwise_append.1 ascending).1
      rw [List.map_append, List.map_singleton, occasion, remembering_append, ← same, ← reported]

/-! ## What forgetting keeps -/

/-- What there is to say of names that come up, and of what is stored of them. -/
structure Debounced (interval : Duration) (mentions : List Mention) (q : Quiet) : Prop where
  /-- The same mentions are reported as if every report were remembered for ever. -/
  remembered : mentions = remembering interval (mentions.map occasion)
  apart : ∀ earlier mention later, mentions = earlier ++ mention :: later →
    mention.reported = true → ∀ other ∈ earlier, other.reported = true →
      other.name = mention.name → interval.nanos ≤ (mention.time.since other.time).nanos
  silent : ∀ earlier mention later, mentions = earlier ++ mention :: later →
    mention.reported = false → ∃ other ∈ earlier, other.reported = true ∧
      other.name = mention.name ∧ (mention.time.since other.time).nanos < interval.nanos
  /-- Right after a report, nothing is stored but its name and names of recent reports. -/
  stored : ∀ earlier mention, mentions = earlier ++ [mention] → mention.reported = true →
    q.reported.get? mention.name = some mention.time ∧
      ∀ name last, name ≠ mention.name → q.reported.get? name = some last →
        ∃ other ∈ earlier, other.reported = true ∧ other.name = name ∧ other.time = last ∧
          (mention.time.since last).nanos < interval.nanos

theorem Logs.debounced (logs : Logs interval mentions q) (ascending : Ascending mentions) :
    Debounced interval mentions q := by
  refine ⟨logs.eq_remembering ascending, ?_, ?_, ?_⟩
  · intro earlier mention later split reported other member otherReported sameName
    subst split
    have due := logs.reported_eq ascending
    obtain ⟨last, remembered, since⟩ :=
      memory_of_reported (List.pairwise_append.1 ascending).1 member otherReported
    rw [reported, Mention.isDue, ← sameName, remembered] at due
    have apart := of_decide_eq_true due.symm
    simp only [Instant.since] at apart ⊢
    omega
  · intro earlier mention later split quiet
    subst split
    have due := logs.reported_eq ascending
    rw [quiet, Mention.isDue] at due
    cases remembered : memory earlier mention.name with
    | none =>
        rw [remembered] at due
        cases due
    | some last =>
        rw [remembered] at due
        obtain ⟨other, member, otherReported, sameName, rfl⟩ := exists_of_memory remembered
        exact ⟨other, member, otherReported, sameName, Nat.lt_of_not_le (of_decide_eq_false due.symm)⟩
  · intro earlier mention split reported
    subst split
    obtain ⟨before, logged, answer⟩ := logs.last
    have due : before.isDue interval mention.time mention.name = true := by
      rw [← report_fst, answer, reported]
    have kept := get?_report before due
    rw [answer] at kept
    refine ⟨by rw [kept, if_pos rfl], ?_⟩
    intro name last differs found
    rw [kept, if_neg differs, Option.filter_eq_some_iff] at found
    obtain ⟨other, member, otherReported, sameName, sameTime⟩ :=
      exists_of_memory (logged.follows.stored name last found.1)
    exact ⟨other, member, otherReported, sameName, sameTime, of_decide_eq_true found.2⟩

end Quiet

end Sightline
