import Sightline.Proofs.Plane.Entry
import Sightline.Proofs.Tracker.Rules
import Sightline.Proofs.Tracker.Selection

/-!
# Who claims a ray

The search passes over the targets in their order and holds the nearest of those that the ray has crossed
so far; one that is only as near does not take the place of an earlier one.  Nobody but the target that
is held at the end is moved.
-/

set_option autoImplicit false

namespace Sightline

namespace Tracker

variable {α : Type} [Scalar α]

/-- Of all targets that a ray crosses this one is entered nearest to its start, and of those entered
equally near it is the first. -/
structure Nearest (ray : Segment α) (targets : List (Tracked α)) (index : Nat) (target : Tracked α)
    (crossing : Crossing α) : Prop where
  live : targets[index]? = some target
  crossed : target.disc.crossing? ray = some crossing
  least : ∀ (k : Nat) (other : Tracked α) (passing : Crossing α), targets[k]? = some other →
    other.disc.crossing? ray = some passing → ray.wayTo crossing ≤ ray.wayTo passing
  first : ∀ (k : Nat) (other : Tracked α) (passing : Crossing α), k < index →
    targets[k]? = some other → other.disc.crossing? ray = some passing →
      ray.wayTo crossing < ray.wayTo passing

/-- What is held after some targets: the claim of the nearest one, or nothing if none was crossed. -/
def Holds (ray : Segment α) (targets : List (Tracked α)) : Option (Claim α) → Prop
  | none => ∀ target ∈ targets, target.disc.crossing? ray = none
  | some claim => ∃ target crossing, Nearest ray targets claim.index target crossing ∧
      claim.distance = ray.wayTo crossing ∧ claim.middle = crossing.midpoint

variable {ray : Segment α} {targets : List (Tracked α)} {index : Nat} {target : Tracked α}
  {crossing : Crossing α}

namespace Nearest

/-- There is only one. -/
theorem index_eq [LawfulScalar α] {index' : Nat} {target' : Tracked α} {crossing' : Crossing α}
    (one : Nearest ray targets index target crossing)
    (other : Nearest ray targets index' target' crossing') : index' = index := by
  rcases Nat.lt_trichotomy index' index with before | same | after
  · have nearer := one.first index' target' crossing' before other.live other.crossed
    have farther := other.least index target crossing one.live one.crossed
    exact absurd (LawfulScalar.lt_of_lt_of_le nearer farther) (LawfulScalar.lt_irrefl _)
  · exact same
  · have nearer := other.first index target crossing after one.live one.crossed
    have farther := one.least index' target' crossing' other.live other.crossed
    exact absurd (LawfulScalar.lt_of_lt_of_le nearer farther) (LawfulScalar.lt_irrefl _)

end Nearest

/-! ## The search -/

/-- What a target is rated by: the claim that it would have. -/
def claimOf (ray : Segment α) (entry : Tracked α × Nat) : Option (Claim α) :=
  (entry.1.disc.crossing? ray).map fun crossing => ⟨entry.2, ray.wayTo crossing, crossing.midpoint⟩

theorem betterClaim_eq_select (ray : Segment α) :
    betterClaim ray = select (claimOf ray) Claim.distance := by
  funext best entry
  unfold betterClaim select claimOf
  cases entry.1.disc.crossing? ray with
  | none => rfl
  | some crossing =>
      cases best with
      | none => rfl
      | some held => rfl

theorem claimOf_eq_some {entry : Tracked α × Nat} {claim : Claim α} :
    claimOf ray entry = some claim ↔ ∃ crossing, entry.1.disc.crossing? ray = some crossing ∧
      ⟨entry.2, ray.wayTo crossing, crossing.midpoint⟩ = claim :=
  Option.map_eq_some_iff

/-- All targets. -/
theorem holds_claim? [LawfulScalar α] [OrderedScalar α] (measured : ray.Measured)
    (targets : List (Tracked α)) : Holds ray targets (claim? targets ray) := by
  have ordered : ∀ entry claim, claimOf ray entry = some claim → claim.distance ≤ claim.distance := by
    intro entry claim rated
    obtain ⟨crossing, crossed, rfl⟩ := claimOf_eq_some.1 rated
    exact measured _ _ crossed
  have selected := selected_foldl ordered targets.zipIdx
  rw [← betterClaim_eq_select] at selected
  change Selected (claimOf ray) Claim.distance targets.zipIdx (claim? targets ray) at selected
  cases best : claim? targets ray with
  | none =>
      rw [best] at selected
      intro target member
      obtain ⟨k, there⟩ := List.getElem?_of_mem member
      exact Option.map_eq_none_iff.1 (selected (target, k) (List.mk_mem_zipIdx_iff_getElem?.2 there))
  | some claim =>
      rw [best] at selected
      obtain ⟨index, ⟨target, _⟩, found⟩ := selected
      obtain ⟨live, rfl⟩ := getElem?_zipIdx_eq_some.1 found.there
      obtain ⟨crossing, crossed, rfl⟩ := claimOf_eq_some.1 found.rated
      refine ⟨target, crossing, ⟨live, crossed, ?_, ?_⟩, rfl, rfl⟩
      · intro k other passing there passed
        exact found.least k (other, k) _ (getElem?_zipIdx_eq_some.2 ⟨there, rfl⟩)
          (claimOf_eq_some.2 ⟨passing, passed, rfl⟩)
      · intro k other passing earlier there passed
        exact found.first k (other, k) _ earlier (getElem?_zipIdx_eq_some.2 ⟨there, rfl⟩)
          (claimOf_eq_some.2 ⟨passing, passed, rfl⟩)

variable [LawfulScalar α] [OrderedScalar α]

/-! ## The outcome -/

/-- A ray is claimed by one target: it goes part of the way to the middle of the crossing and lives from
now on, with all else as it was; and all other targets are left alone. -/
structure Claimed (plan : TrackerPlan α) (now : Instant) (ray : Segment α) (t after : Tracker α)
    (index : Nat) (target : Tracked α) (crossing : Crossing α) : Prop where
  nearest : Nearest ray t.targets index target crossing
  only : ∀ (k : Nat) (other : Tracked α) (passing : Crossing α),
    Nearest ray t.targets k other passing → k = index
  moved : after.targets[index]? = some
    { target with
      position := target.position + (crossing.midpoint - target.position).scale plan.sensitivity
      refreshed := now }
  others : ∀ k, k ≠ index → after.targets[k]? = t.targets[k]?
  issuer : after.issuer = t.issuer

/-- What becomes of an offered ray. -/
structure Settles (plan : TrackerPlan α) (now : Instant) (ray : Segment α) (t : Tracker α)
    (claimed : Bool) (after : Tracker α) : Prop where
  claimed_iff : claimed = true ↔ ∃ target ∈ t.targets, (target.disc.crossing? ray).isSome = true
  unclaimed : claimed = false → after = t
  taken : claimed = true → ∃ index target crossing, Claimed plan now ray t after index target crossing

theorem offer_settles (plan : TrackerPlan α) (t : Tracker α) (now : Instant)
    (measured : ray.Measured) (finite : ray.isFinite = true) :
    ∃ claimed after, t.offer plan now ray = .ok (claimed, after) ∧
      Settles plan now ray t claimed after := by
  obtain ⟨⟨claimed, after⟩, offered⟩ : ∃ outcome, t.offer plan now ray = .ok outcome :=
    ⟨_, offer_of_finite finite⟩
  refine ⟨claimed, after, offered, claimed_iff offered, ?_, ?_⟩
  · rintro rfl
    rcases offer_eq_ok offered with ⟨_, same, _⟩ | ⟨_, impossible, _⟩
    · exact same
    · cases impossible
  · rintro rfl
    rcases offer_eq_ok offered with ⟨impossible, _⟩ | ⟨claim, _, best, rfl⟩
    · cases impossible
    · have holds := holds_claim? measured t.targets
      rw [best] at holds
      obtain ⟨target, crossing, nearest, _, middle⟩ := holds
      refine ⟨claim.index, target, crossing, nearest, fun _ _ _ => nearest.index_eq, ?_, ?_, rfl⟩
      · rw [List.getElem?_modify_eq, nearest.live, middle]
        rfl
      · exact fun k other => List.getElem?_modify_ne _ _ other.symm

/-- A finite ray is claimed exactly if it crosses a target, and then by the one that it enters nearest to
its start, in exact arithmetic the one that it enters first. -/
theorem nearest_target_claims :
    (∀ (plan : TrackerPlan Float) (t : Tracker Float) (now : Instant) (ray : Segment Float),
      ray.isFinite = true → ∃ claimed after, t.offer plan now ray = .ok (claimed, after) ∧
        Settles plan now ray t claimed after) ∧
      ∀ (plan : TrackerPlan ℝ) (t : Tracker ℝ) (now : Instant) (ray : Segment ℝ),
        ∃ claimed after, t.offer plan now ray = .ok (claimed, after) ∧
          Settles plan now ray t claimed after ∧
          ∀ index target crossing, Claimed plan now ray t after index target crossing →
            ∀ (k : Nat) (other : Tracked ℝ) (passing : Crossing ℝ), t.targets[k]? = some other →
              other.disc.crossing? ray = some passing →
                crossing.t0 ≤ passing.t0 ∧ (k < index → crossing.t0 < passing.t0) := by
  refine ⟨fun plan t now ray finite => offer_settles plan t now ray.measured_binary64 finite,
    fun plan t now ray => ?_⟩
  obtain ⟨claimed, after, offered, settles⟩ := offer_settles plan t now ray.measured_exact rfl
  refine ⟨claimed, after, offered, settles, ?_⟩
  intro index target crossing taken k other passing there passed
  have crossed := taken.nearest.crossed
  exact ⟨(Segment.wayTo_le_wayTo crossed passed).1 (taken.nearest.least k other passing there passed),
    fun earlier => (Segment.wayTo_lt_wayTo crossed passed).1
      (taken.nearest.first k other passing earlier there passed)⟩

/-- One target far along the ray, and two on the same place nearer to its start. -/
def queue : Tracker Float where
  targets := [⟨8, 0⟩, ⟨4, 0⟩, ⟨4, 0⟩].zipIdx.map fun (position, k) =>
    ⟨⟨position, 0.6, .ofMillis 5000, .zero⟩, ⟨UInt64.ofNat (k + 1)⟩⟩
  issuer := ⟨3⟩

def queuePlan : TrackerPlan Float := ⟨0.6, .ofMillis 5000, 0.2, 0.5, 1.0, []⟩

theorem queue_claims : ∃ after target crossing,
    queue.offer queuePlan ⟨7⟩ ⟨⟨0, 0⟩, ⟨10, 0⟩⟩ = .ok (true, after) ∧
      Claimed queuePlan ⟨7⟩ ⟨⟨0, 0⟩, ⟨10, 0⟩⟩ queue after 1 target crossing := by
  obtain ⟨claimed, after, offered, settles⟩ :=
    nearest_target_claims.1 queuePlan queue ⟨7⟩ ⟨⟨0, 0⟩, ⟨10, 0⟩⟩ (by decide +kernel)
  have crossed : ∃ target ∈ queue.targets,
      (target.disc.crossing? ⟨⟨0, 0⟩, ⟨10, 0⟩⟩).isSome = true := by decide +kernel
  obtain rfl := settles.claimed_iff.2 crossed
  obtain ⟨index, target, crossing, taken⟩ := settles.taken rfl
  have outcome : (queue.offer queuePlan ⟨7⟩ ⟨⟨0, 0⟩, ⟨10, 0⟩⟩).toOption.map
      (fun offered => offered.2.targets.map (·.refreshed.nanos)) = some [0, 7, 0] := by decide +kernel
  rw [offered] at outcome
  have refreshed : ([0, 7, 0] : List Nat)[index]? = some 7 := by
    rw [← Option.some.inj outcome, List.getElem?_map, taken.moved]
    rfl
  obtain rfl : index = 1 := by
    rcases index with _ | _ | _ | _ <;> simp at refreshed ⊢
  exact ⟨after, target, crossing, offered, taken⟩

end Tracker

end Sightline
