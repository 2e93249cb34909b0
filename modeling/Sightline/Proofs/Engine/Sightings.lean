import Sightline.Proofs.Engine.Steps
import Sightline.Proofs.Evidence.Levels

/-!
# Rays and motion reports, whole

What the engine does with a ray depends on two things: whether its ends are finite, and whether a
live target claims it.  Each of the three cases is given here as the whole step, with its answer,
the state that it leaves, its notes and its snapshots.
-/

set_option autoImplicit false

namespace Sightline

variable {α : Type} [Scalar α]

theorem Watch.offer_of_finite {plan : TrackerPlan α} {w : Watch α} {now : Instant}
    {ray : Segment α} (finite : ray.isFinite = true) :
    w.offer plan now ray =
      .ok ((w.tracker.offerFinite plan now ray).1,
        { w with tracker := (w.tracker.offerFinite plan now ray).2 }) := by
  rw [offer, Tracker.offer_of_finite finite]
  rfl

namespace Engine

variable {site : Site α} {e : Engine site} {camera : String} {ray : Segment α}

/-! ## Rays -/

def afterRefusal (e : Engine site) (camera : String) (entry : Entry) :
    Step site (Except (Fault α) RayOutcome) :=
  ⟨.error (.notFinite entry), e.count .inputRejected, [.rayRejected camera (.notFinite entry)], []⟩

def afterClaim (e : Engine site) (ray : Segment α) : Step site (Except (Fault α) RayOutcome) :=
  let moved := (e.watch.tracker.offerFinite site.trackerPlan e.now ray).2
  ({ e with watch := { e.watch with tracker := moved } }.count .rayClaimed).publishing
    (.ok .claimed) []

def afterGathering (e : Engine site) (evidence : Evidence site.evidencePlan) :
    Step site (Except (Fault α) RayOutcome) :=
  ({ e with evidence := evidence }.count .rayGathered).publishing (.ok .gathered) []

theorem trace_of_refused {fault : Fault α}
    (refused : requireFiniteEnds ray .traceStart .traceStop = .error fault) :
    e.trace camera ray =
      .ok ⟨.error fault, e.count .inputRejected, [.rayRejected camera fault], []⟩ := by
  rw [trace, refused]

theorem trace_of_infinite (e : Engine site) (camera : String) (infinite : ray.isFinite = false) :
    ∃ entry, (entry = .traceStart ∨ entry = .traceStop) ∧
      e.trace camera ray = .ok (e.afterRefusal camera entry) := by
  rcases requireFiniteEnds_cases ray .traceStart .traceStop with ⟨finite, _⟩ | ⟨_, refused | refused⟩
  · rw [infinite] at finite
    cases finite
  · exact ⟨.traceStart, .inl rfl, trace_of_refused refused⟩
  · exact ⟨.traceStop, .inr rfl, trace_of_refused refused⟩

theorem trace_of_claim {claim : Claim α} (finite : ray.isFinite = true)
    (best : Tracker.claim? e.watch.tracker.targets ray = some claim) :
    e.trace camera ray = .ok (e.afterClaim ray) := by
  have claimed : (e.watch.tracker.offerFinite site.trackerPlan e.now ray).1 = true := by
    rw [Tracker.offerFinite, best]
  rw [trace_of_finite finite, accept, Watch.offer_of_finite finite, claimed]
  rfl

theorem trace_of_unclaimed (finite : ray.isFinite = true)
    (unclaimed : Tracker.claim? e.watch.tracker.targets ray = none) :
    e.trace camera ray = (do .ok (e.afterGathering (← e.evidence.addRay camera ray))) := by
  have passed : e.watch.tracker.offerFinite site.trackerPlan e.now ray = (false, e.watch.tracker) := by
    rw [Tracker.offerFinite, unclaimed]
  rw [trace_of_finite finite, accept, Watch.offer_of_finite finite, passed]
  simp only [Evidence.trace_of_finite _ _ finite]
  cases e.evidence.addRay camera ray <;> rfl

/-- A ray is refused, claimed or gathered; each time the step is known whole. -/
inductive Traced (e : Engine site) (camera : String) (ray : Segment α)
    (step : Step site (Except (Fault α) RayOutcome)) : Prop
  | refused (entry : Entry) (ends : entry = .traceStart ∨ entry = .traceStop)
      (infinite : ray.isFinite = false) (same : step = e.afterRefusal camera entry)
  | claimed (claim : Claim α) (finite : ray.isFinite = true)
      (best : Tracker.claim? e.watch.tracker.targets ray = some claim)
      (same : step = e.afterClaim ray)
  | gathered (evidence : Evidence site.evidencePlan) (finite : ray.isFinite = true)
      (unclaimed : Tracker.claim? e.watch.tracker.targets ray = none)
      (added : e.evidence.addRay camera ray = .ok evidence)
      (same : step = e.afterGathering evidence)

theorem trace_eq_ok {step : Step site (Except (Fault α) RayOutcome)}
    (done : e.trace camera ray = .ok step) : e.Traced camera ray step := by
  cases finite : ray.isFinite with
  | false =>
      obtain ⟨entry, ends, answered⟩ := trace_of_infinite e camera finite
      rw [answered] at done
      cases done
      exact .refused entry ends finite rfl
  | true =>
      cases best : Tracker.claim? e.watch.tracker.targets ray with
      | some claim =>
          rw [trace_of_claim finite best] at done
          cases done
          exact .claimed claim finite best rfl
      | none =>
          rw [trace_of_unclaimed finite best, bind_eq_ok] at done
          obtain ⟨evidence, added, result⟩ := done
          cases result
          exact .gathered evidence finite best added rfl

/-! ## Motion reports -/

theorem motion_of_unknown {angle : α} (unknown : site.installation.camera? camera = none) :
    e.motion camera angle = .ok (e.noteUnknown camera) := by
  rw [motion, Installation.ray, unknown]

theorem motion_of_infinite {angle : α} (mounted : site.installation.camera? camera ≠ none)
    (infinite : Scalar.isFinite angle = false) :
    e.motion camera angle =
      .ok ((e.count .inputRejected).silently (.error (.notFinite .motionAngle))) := by
  cases found : site.installation.camera? camera with
  | none => exact absurd found mounted
  | some own =>
      rw [motion, Installation.ray, found]
      simp only [infinite, Bool.false_eq_true, if_false]

theorem motion_of_finite (e : Engine site) {angle : α}
    (mounted : site.installation.camera? camera ≠ none)
    (finite : Scalar.isFinite angle = true) :
    ∃ ray, site.installation.ray camera angle site.settings.rayLength = .ok ray ∧
      e.motion camera angle = e.trace camera ray := by
  cases found : site.installation.camera? camera with
  | none => exact absurd found mounted
  | some own =>
      have brings : ∃ ray, site.installation.ray camera angle site.settings.rayLength = .ok ray := by
        rw [Installation.ray, found]
        simp only [finite, if_true]
        exact ⟨_, rfl⟩
      obtain ⟨ray, rayEq⟩ := brings
      exact ⟨ray, rayEq, motion_of_ray rayEq⟩

end Engine

end Sightline
