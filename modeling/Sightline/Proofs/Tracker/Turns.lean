import Sightline.Proofs.Tracker.Accounting

/-!
# The turns of a tracker

A command that is carried out takes one of a few turns, by the rule that it asks for and by what the
rule finds.  What is kept by all turns is kept by every run.
-/

set_option autoImplicit false

namespace Sightline

variable {α : Type} [Scalar α]

namespace Tracker

/-- The tracker with a target at the candidate, behind all others and under the next serial number. -/
def withTarget (t : Tracker α) (plan : TrackerPlan α) (now : Instant) (candidate : Point α) :
    Tracker α :=
  ⟨t.targets ++ [⟨⟨candidate, plan.radius, plan.ttl, now⟩, t.issuer.next.1⟩], t.issuer.next.2⟩

def withNudge (t : Tracker α) (plan : TrackerPlan α) (now : Instant) (claim : Claim α) : Tracker α :=
  { t with targets := t.targets.modify claim.index fun target =>
      target.nudge claim.middle plan.sensitivity now }

/-- The tracker with the target at the first place moved, and without the one at the second. -/
def withMerge (t : Tracker α) (first second : Nat) (position : Point α) : Tracker α :=
  { t with targets := (t.targets.modify first (·.moveTo position)).eraseIdx second }

def withoutStale (t : Tracker α) (now : Instant) : Tracker α :=
  { t with targets := t.targets.filter fun target => !target.isStale now }

end Tracker

namespace Lookout

variable {plan : TrackerPlan α} {l after : Lookout α}

/-- The place among the live targets of the one that claims a ray. -/
def claimant? (l : Lookout α) (ray : Segment α) : Option Nat :=
  if ray.isFinite then (Tracker.claim? l.tracker.targets ray).map (·.index) else none

/-- How a command may be carried out, and what the lookout is afterwards. -/
inductive Turn (plan : TrackerPlan α) (l : Lookout α) : TrackerCommand α → Lookout α → Prop
  | missed {ray : Segment α} (unclaimed : l.claimant? ray = none) : Turn plan l (.offer ray) l
  | claimed {ray : Segment α} (claim : Claim α)
      (best : Tracker.claim? l.tracker.targets ray = some claim)
      (claimant : l.claimant? ray = some claim.index) :
      Turn plan l (.offer ray) { l with tracker := l.tracker.withNudge plan l.now claim }
  | faulty {candidate : Point α} {fault : Fault α}
      (refused : l.tracker.spawn plan l.now candidate = .error fault) :
      Turn plan l (.spawn candidate) l
  | declined {candidate : Point α} {verdict : SpawnVerdict}
      (tried : l.tracker.spawn plan l.now candidate = .ok (verdict, l.tracker))
      (none : verdict.id? = none) : Turn plan l (.spawn candidate) l
  | set {candidate : Point α}
      (spawned : l.tracker.spawn plan l.now candidate =
        .ok (.spawned l.tracker.issuer.next.1, l.tracker.withTarget plan l.now candidate)) :
      Turn plan l (.spawn candidate)
        { l with tracker := l.tracker.withTarget plan l.now candidate }
  | apart (none : Tracker.overlappingPair? l.tracker.targets plan.mergeSlack = none) :
      Turn plan l .merge l
  | merged {first second : Tracked α × Nat} (position : Point α)
      (found : Tracker.overlappingPair? l.tracker.targets plan.mergeSlack = some (first, second)) :
      Turn plan l .merge { l with tracker := l.tracker.withMerge first.2 second.2 position }
  | expired : Turn plan l .expire { l with tracker := l.tracker.withoutStale l.now }
  | waited {time : Duration} {later : Instant} (moved : l.now.after time = .ok later) :
      Turn plan l (.advance time) { l with now := later }

theorem perform_turn {command : TrackerCommand α} {reply : TrackerReply α}
    (done : l.perform plan command = .ok (reply, after)) : l.Turn plan command after := by
  cases command with
  | offer ray =>
      simp only [perform] at done
      split at done
      · rename_i offered
        cases done
        have finite := Tracker.isFinite_of_offer offered
        rcases Tracker.offer_eq_ok offered with ⟨_, rfl, missed⟩ | ⟨claim, _, best, rfl⟩
        · exact .missed (by rw [claimant?, if_pos finite, missed]; rfl)
        · exact .claimed claim best (by rw [claimant?, if_pos finite, best]; rfl)
      · rename_i refused
        cases done
        have infinite : ¬ ray.isFinite = true := by
          intro finite
          rw [Tracker.offer_of_finite finite] at refused
          cases refused
        exact .missed (by rw [claimant?, if_neg infinite])
  | spawn candidate =>
      simp only [perform] at done
      split at done
      · rename_i spawned
        cases done
        rcases Tracker.spawn_eq_ok spawned with ⟨none, rfl⟩ | ⟨rfl, rfl⟩
        · exact .declined spawned none
        · exact .set spawned
      · rename_i refused
        cases done
        exact .faulty refused
  | merge =>
      simp only [perform] at done
      split at done
      · rename_i merged
        cases done
        obtain ⟨first, second, found, _, rfl⟩ := Tracker.merge?_eq_some merged
        exact .merged _ found
      · rename_i unmerged
        cases done
        rw [Tracker.merge?, Option.map_eq_none_iff] at unmerged
        exact .apart unmerged
  | expire =>
      simp only [perform, bind_eq_ok] at done
      obtain ⟨⟨gone, tracker⟩, expired, result⟩ := done
      cases result
      obtain ⟨_, rfl⟩ := Tracker.expire_eq_ok expired
      exact .expired
  | advance time =>
      simp only [perform, bind_eq_ok] at done
      obtain ⟨_, moved, result⟩ := done
      cases result
      exact .waited moved

/-- What every turn keeps is kept by every run. -/
theorem performAll_keeps {kept : Lookout α → Prop}
    (turns : ∀ (l after : Lookout α) (command : TrackerCommand α), kept l →
      l.Turn plan command after → kept after)
    {commands : List (TrackerCommand α)} {replies : List (TrackerReply α)} (start : kept l)
    (done : l.performAll plan commands = .ok (replies, after)) : kept after := by
  induction commands generalizing l replies with
  | nil =>
      cases done
      exact start
  | cons command rest ih =>
      obtain ⟨reply, next, others, one, later, rfl⟩ := performAll_cons_eq_ok.1 done
      exact ih (turns l next command start (perform_turn one)) later

end Lookout

end Sightline
