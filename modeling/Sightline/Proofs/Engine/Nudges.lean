import Sightline.Proofs.Engine.Regions
import Sightline.Proofs.Plane.Foot
import Sightline.Proofs.Tracker.Claiming
import Sightline.Proofs.Tracker.Spawning

/-!
# Nudges

The target that claims a ray stands at the centre of its disc and goes towards the middle of the
crossing, which is the foot of the perpendicular to the ray.  So it goes straight across to the line of
the ray by a share of its distance from it, and that distance is not above the radius.
-/

set_option autoImplicit false

namespace Sightline

/-- A place comes nearer to the line through a ray by a share of the way straight across to it, and
does not go far. -/
structure Segment.Damps (ray : Segment ℝ) (share radius : ℝ) (p q : Point ℝ) : Prop where
  across : ray.along.dot (q - p) = 0
  nearer : ray.lineDistance q = |1 - share| * ray.lineDistance p
  short : (q - p).norm ≤ |share| * radius

theorem Segment.IsFoot.damps {ray : Segment ℝ} {p foot : Point ℝ} {radius : ℝ}
    (isFoot : ray.IsFoot p foot) (near : (foot - p).norm ≤ radius) (share : ℝ) :
    ray.Damps share radius p (p.towards foot share) := by
  refine ⟨isFoot.dot_towards_sub share, ?_, ?_⟩
  · rw [(isFoot.towards share).lineDistance_eq, isFoot.lineDistance_eq, Point.norm_sub_towards]
  · rw [Point.norm_towards_sub]
    exact mul_le_mul_of_nonneg_left near (abs_nonneg share)

namespace Tracker

/-- One live target makes a damped move, and all others stay where they are. -/
structure Nudges (ray : Segment ℝ) (share radius : ℝ) (t after : Tracker ℝ) (index : Nat)
    (target moved : Tracked ℝ) : Prop where
  before : t.targets[index]? = some target
  afterwards : after.targets[index]? = some moved
  damped : ray.Damps share radius target.position moved.position
  others : ∀ k, k ≠ index → after.targets[k]? = t.targets[k]?

variable {plan : TrackerPlan ℝ} {t after : Tracker ℝ} {now : Instant} {ray : Segment ℝ}

theorem offer_nudges (offered : t.offer plan now ray = .ok (true, after)) :
    ∃ index target moved, Nudges ray plan.sensitivity |target.radius| t after index target moved := by
  obtain ⟨claimed, reached, settled, settles⟩ := offer_settles plan t now ray.measured_exact rfl
  rw [offered] at settled
  cases settled
  obtain ⟨index, target, crossing, taken⟩ := settles.taken rfl
  have isFoot := Disc.isFoot_midpoint taken.nearest.crossed
  have near := Disc.norm_midpoint_sub_le taken.nearest.crossed
  exact ⟨index, target, _, taken.nearest.live, taken.moved, isFoot.damps near plan.sensitivity,
    taken.others⟩

end Tracker

theorem Settings.targetRadius_pos {settings : Settings ℝ} (sound : settings.problem? = none) :
    0 < settings.targetRadius := by
  have positive := (Settings.problem?_eq_none.1 sound).positive
    (.targetRadius, settings.targetRadius) List.mem_cons_self
  rw [← Exact.zero_eq]
  exact of_decide_eq_true (Bool.and_eq_true_iff.1 positive).1

namespace Lookout

variable {settings : Settings ℝ} {installation : Installation ℝ} {l after : Lookout ℝ}
  {ray : Segment ℝ}

theorem perform_offer_nudges (sound : settings.problem? = none)
    (uniform : l.tracker.Uniform (.ofSettings settings installation))
    (done : l.perform (.ofSettings settings installation) (.offer ray) =
      .ok (.offered (.ok true), after)) :
    ∃ index target moved, Tracker.Nudges ray (installation.ownSensitivity.getD settings.sensitivity)
      settings.targetRadius l.tracker after.tracker index target moved := by
  simp only [perform] at done
  split at done
  · rename_i offered
    cases done
    obtain ⟨index, target, moved, nudges⟩ := Tracker.offer_nudges offered
    have radius : target.radius = settings.targetRadius :=
      (uniform target (List.mem_of_getElem? nudges.before)).1
    rw [radius, abs_of_pos (Settings.targetRadius_pos sound)] at nudges
    exact ⟨index, target, moved, nudges⟩
  · cases done

end Lookout

/-- In exact arithmetic the middle of a crossing is the foot of the perpendicular from the centre, and
the target that claims a ray goes a share of the way to it: of any target, and of the targets that a
tracker with sound settings ever holds, by no more than this share of the radius. -/
theorem nudge_is_damped :
    (∀ (disc : Disc ℝ) (segment : Segment ℝ) (crossing : Crossing ℝ),
      disc.crossing? segment = some crossing →
        segment.IsFoot disc.center crossing.midpoint ∧
          ∀ foot, segment.IsFoot disc.center foot → foot = crossing.midpoint) ∧
    (∀ (plan : TrackerPlan ℝ) (t after : Tracker ℝ) (now : Instant) (ray : Segment ℝ),
      t.offer plan now ray = .ok (true, after) → ∃ index target moved,
        Tracker.Nudges ray plan.sensitivity |target.radius| t after index target moved) ∧
    ∀ (settings : Settings ℝ) (installation : Installation ℝ) (commands : List (TrackerCommand ℝ))
        (replies : List (TrackerReply ℝ)) (l after : Lookout ℝ) (ray : Segment ℝ),
      settings.problem? = none →
        Lookout.start.performAll (.ofSettings settings installation) commands = .ok (replies, l) →
          l.perform (.ofSettings settings installation) (.offer ray) =
              .ok (.offered (.ok true), after) →
            ∃ index target moved,
              Tracker.Nudges ray (installation.ownSensitivity.getD settings.sensitivity)
                settings.targetRadius l.tracker after.tracker index target moved := by
  refine ⟨fun disc segment crossing crossed => ?_,
    fun _ _ _ _ _ offered => Tracker.offer_nudges offered, ?_⟩
  · have isFoot := Disc.isFoot_midpoint crossed
    exact ⟨isFoot, fun foot another => isFoot.eq another⟩
  · intro settings installation commands replies l after ray sound reached done
    exact Lookout.perform_offer_nudges sound (Lookout.performAll_uniform reached) done

/-- A ray passes the origin at half a metre. -/
noncomputable def passingRay : Segment ℝ := ⟨⟨-2, 1 / 2⟩, ⟨2, 1 / 2⟩⟩

/-- A target at the origin, of the size of the exact settings. -/
noncomputable def pillar : Disc ℝ := ⟨⟨0, 0⟩, Engine.exactSettings.targetRadius⟩

theorem passingRay_crosses : (pillar.crossing? passingRay).isSome = true := by
  have radius : pillar.radius = 0.6 := rfl
  have round : 0 < pillar.radius := by
    rw [radius]
    norm_num
  have power : ∀ t, pillar.power (passingRay.pointAt t) = (4 * t - 2) ^ 2 + (1 / 2) ^ 2 - 0.6 ^ 2 := by
    intro t
    rw [Disc.power, Disc.distance_sq, radius]
    change (-2 + (2 - -2) * t - 0) ^ 2 + (1 / 2 + (1 / 2 - 1 / 2) * t - 0) ^ 2 - 0.6 ^ 2 = _
    ring
  apply (Disc.isSome_crossing?_iff round _ _ _).2
  · refine ⟨1 / 2, by norm_num, by norm_num, ?_⟩
    apply le_of_lt
    rw [← Disc.power_neg_iff round, power]
    norm_num
  · norm_num [passingRay, Segment.along, Point.normSq, Point.dot]
  · rw [← Disc.power_pos_iff round, ← Segment.pointAt_zero, power]
    norm_num
  · rw [← Disc.power_pos_iff round, ← Segment.pointAt_one, power]
    norm_num

noncomputable def pillared : Lookout ℝ :=
  ⟨Tracker.empty.withTarget Engine.exactYard.trackerPlan .zero pillar.center, .zero⟩

theorem pillar_is_set :
    Lookout.start.performAll Engine.exactYard.trackerPlan [.spawn pillar.center] =
      .ok ([.spawned (.ok (.spawned ⟨1⟩))], pillared) := by
  have uniform := Tracker.uniform_empty Engine.exactYard.trackerPlan
  have notUnder : ¬ Engine.exactYard.trackerPlan.UnderCamera pillar.center := by
    rintro ⟨_, mounted, _⟩
    cases mounted
  have notOn : ¬ Tracker.empty.OnTarget Engine.exactYard.trackerPlan pillar.center := by
    rintro ⟨_, live, _⟩
    cases live
  have finite : pillar.center.isFinite = true := rfl
  have spawned := uniform.spawn_eq .zero finite
  rw [if_neg notUnder, if_neg notOn] at spawned
  simp only [Lookout.performAll, Lookout.perform, Lookout.start, spawned]
  rfl

theorem pillar_claims : ∃ after, pillared.tracker.offer Engine.exactYard.trackerPlan .zero passingRay =
    .ok (true, after) := by
  obtain ⟨⟨claimed, after⟩, offered⟩ : ∃ outcome,
      pillared.tracker.offer Engine.exactYard.trackerPlan .zero passingRay = .ok outcome :=
    ⟨_, Tracker.offer_of_finite rfl⟩
  obtain rfl : claimed = true :=
    (Tracker.claimed_iff offered).2 ⟨_, List.mem_singleton_self _, passingRay_crosses⟩
  exact ⟨after, offered⟩

theorem pillar_is_nudged :
    (∃ crossing, pillar.crossing? passingRay = some crossing ∧
      passingRay.IsFoot pillar.center crossing.midpoint) ∧
    ∃ after, pillared.tracker.offer Engine.exactYard.trackerPlan .zero passingRay = .ok (true, after) ∧
      (∃ index target moved, Tracker.Nudges passingRay (1 / 2) |target.radius| pillared.tracker after
        index target moved) ∧
      ∃ index target moved, Tracker.Nudges passingRay (1 / 2) Engine.exactSettings.targetRadius
        pillared.tracker after index target moved := by
  obtain ⟨feet, nudges, soundNudges⟩ := nudge_is_damped
  obtain ⟨crossing, crossed⟩ := Option.isSome_iff_exists.1 passingRay_crosses
  obtain ⟨after, offered⟩ := pillar_claims
  have claimed : pillared.perform Engine.exactYard.trackerPlan (.offer passingRay) =
      .ok (.offered (.ok true), ⟨after, .zero⟩) := by
    simp only [Lookout.perform]
    rw [show pillared.now = .zero from rfl, offered]
  refine ⟨⟨crossing, crossed, (feet _ _ crossing crossed).1⟩, after, offered,
    nudges _ _ _ _ _ offered, ?_⟩
  exact soundNudges Engine.exactSettings .empty _ _ _ _ _
    (Settings.problem?_eq_none.2 Engine.exactSettings_sound) pillar_is_set claimed

end Sightline
