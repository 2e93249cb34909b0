import Sightline.Proofs.Engine.Factoring
import Sightline.Proofs.Engine.Sightings

/-!
# Refused inputs change nothing

A ray is refused if one of its ends is not finite, a motion report if its camera is not mounted, if
its angle is not finite or if the ray that it makes would be refused.  A refusal leaves evidence,
targets, ids and clock as they were and publishes nothing; all that remains of it is the count of
inputs that were not finite.
-/

set_option autoImplicit false

namespace Sightline

variable {α : Type} [Scalar α]

/-- What a fault adds to the count of rejected inputs. -/
def Fault.rejections : Fault α → UInt64
  | .notFinite _ => 1
  | _ => 0

namespace Engine

variable {site : Site α} {e : Engine site} {camera : String} {ray : Segment α} {angle : α}
  {step : Step site (Except (Fault α) RayOutcome)} {fault : Fault α}

structure Refuses (e : Engine site) (fault : Fault α)
    (step : Step site (Except (Fault α) RayOutcome)) : Prop where
  result : step.result = .error fault
  unmoved : e.Unmoved step.engine
  tally : step.engine.tally =
    { e.tally with inputRejected := e.tally.inputRejected + fault.rejections }
  published : step.published = []

theorem refuses_afterRefusal (entry : Entry) :
    e.Refuses (.notFinite entry) (e.afterRefusal camera entry) :=
  ⟨rfl, ⟨rfl, rfl, rfl⟩, rfl, rfl⟩

theorem refuses_noteUnknown : e.Refuses (.unknownCamera camera) (e.noteUnknown camera) := by
  refine ⟨rfl, ⟨rfl, rfl, rfl⟩, ?_, rfl⟩
  have same : e.tally.inputRejected + 0 = e.tally.inputRejected := UInt64.add_zero _
  simp only [Fault.rejections, same]
  rfl

/-! ## Rays -/

theorem Traced.error_iff (traced : e.Traced camera ray step) :
    (∃ fault, step.result = .error fault) ↔ ray.isFinite = false := by
  cases traced with
  | refused entry ends infinite same =>
      subst same
      exact ⟨fun _ => infinite, fun _ => ⟨_, rfl⟩⟩
  | claimed claim finite best same =>
      subst same
      simp [afterClaim, publishing, finite]
  | gathered evidence finite unclaimed added same =>
      subst same
      simp [afterGathering, publishing, finite]

theorem Traced.refuses (traced : e.Traced camera ray step) (refused : step.result = .error fault) :
    e.Refuses fault step ∧ (fault = .notFinite .traceStart ∨ fault = .notFinite .traceStop) := by
  have infinite := traced.error_iff.1 ⟨fault, refused⟩
  cases traced with
  | refused entry ends _ same =>
      subst same
      cases refused
      refine ⟨refuses_afterRefusal entry, ?_⟩
      rcases ends with rfl | rfl
      · exact .inl rfl
      · exact .inr rfl
  | claimed claim finite best same =>
      rw [infinite] at finite
      cases finite
  | gathered evidence finite unclaimed added same =>
      rw [infinite] at finite
      cases finite

/-! ## Motion reports -/

/-- A motion report that cannot be let in, whatever the state: its camera is not mounted, or its
angle or an end of its ray is not finite. -/
def BadMotion (site : Site α) (camera : String) (angle : α) : Prop :=
  site.installation.camera? camera = none ∨ Scalar.isFinite angle = false ∨
    ∃ ray, site.installation.ray camera angle site.settings.rayLength = .ok ray ∧
      ray.isFinite = false

/-- What a motion report comes to: an unknown camera first, then a bad angle, then its ray. -/
inductive Moved (e : Engine site) (camera : String) (angle : α)
    (step : Step site (Except (Fault α) RayOutcome)) : Prop
  | unknown (absent : site.installation.camera? camera = none) (same : step = e.noteUnknown camera)
  | infinite (mounted : site.installation.camera? camera ≠ none)
      (infinite : Scalar.isFinite angle = false)
      (same : step = (e.count .inputRejected).silently (.error (.notFinite .motionAngle)))
  | ray (ray : Segment α) (mounted : site.installation.camera? camera ≠ none)
      (finite : Scalar.isFinite angle = true)
      (brings : site.installation.ray camera angle site.settings.rayLength = .ok ray)
      (traced : e.Traced camera ray step)

theorem motion_eq_ok (done : e.motion camera angle = .ok step) : e.Moved camera angle step := by
  by_cases absent : site.installation.camera? camera = none
  · rw [motion_of_unknown absent] at done
    cases done
    exact .unknown absent rfl
  · cases finite : Scalar.isFinite angle with
    | false =>
        rw [motion_of_infinite absent finite] at done
        cases done
        exact .infinite absent finite rfl
    | true =>
        obtain ⟨ray, brings, same⟩ := motion_of_finite e absent finite
        rw [same] at done
        exact .ray ray absent finite brings (trace_eq_ok done)

theorem Moved.error_iff (moved : e.Moved camera angle step) :
    (∃ fault, step.result = .error fault) ↔ BadMotion site camera angle := by
  cases moved with
  | unknown absent same =>
      subst same
      exact ⟨fun _ => .inl absent, fun _ => ⟨_, rfl⟩⟩
  | infinite mounted infinite same =>
      subst same
      exact ⟨fun _ => .inr (.inl infinite), fun _ => ⟨_, rfl⟩⟩
  | ray ray mounted finite brings traced =>
      rw [traced.error_iff]
      constructor
      · intro infinite
        exact .inr (.inr ⟨ray, brings, infinite⟩)
      · rintro (absent | infinite | ⟨other, brought, infinite⟩)
        · exact absurd absent mounted
        · rw [finite] at infinite
          cases infinite
        · rw [brings] at brought
          cases brought
          exact infinite

theorem Moved.refuses (moved : e.Moved camera angle step) (refused : step.result = .error fault) :
    e.Refuses fault step := by
  cases moved with
  | unknown absent same =>
      subst same
      cases refused
      exact refuses_noteUnknown
  | infinite mounted infinite same =>
      subst same
      cases refused
      exact ⟨rfl, ⟨rfl, rfl, rfl⟩, rfl, rfl⟩
  | ray ray mounted finite brings traced => exact (traced.refuses refused).1

/-- The camera is looked at first: it decides the answer even if the angle is not finite. -/
theorem Moved.unknown_iff (moved : e.Moved camera angle step) :
    step.result = .error (.unknownCamera camera) ↔ site.installation.camera? camera = none := by
  cases moved with
  | unknown absent same =>
      subst same
      exact ⟨fun _ => absent, fun _ => rfl⟩
  | infinite mounted infinite same =>
      subst same
      constructor
      · intro refused
        cases refused
      · intro absent
        exact absurd absent mounted
  | ray ray mounted finite brings traced =>
      constructor
      · intro refused
        rcases (traced.refuses refused).2 with other | other
        · cases other
        · cases other
      · intro absent
        exact absurd absent mounted

theorem motion_of_bad (bad : BadMotion site camera angle) :
    ∃ step, e.motion camera angle = .ok step := by
  by_cases absent : site.installation.camera? camera = none
  · exact ⟨_, motion_of_unknown absent⟩
  · cases finite : Scalar.isFinite angle with
    | false => exact ⟨_, motion_of_infinite absent finite⟩
    | true =>
        obtain ⟨ray, brings, same⟩ := motion_of_finite e absent finite
        rcases bad with none | infinite | ⟨other, brought, infinite⟩
        · exact absurd none absent
        · rw [finite] at infinite
          cases infinite
        · rw [brings] at brought
          cases brought
          obtain ⟨entry, _, answered⟩ := trace_of_infinite e camera infinite
          exact ⟨_, same.trans answered⟩

/-! ## Every state -/

/-- Whatever state the engine is in: which inputs are refused, that each of them is answered and
changes nothing, and that no check further in refuses a ray that the first one has let in. -/
theorem errors_change_nothing (e : Engine site) :
    (∀ (camera : String) (ray : Segment α),
      (ray.isFinite = false → ∃ step, e.trace camera ray = .ok step) ∧
        ∀ step, e.trace camera ray = .ok step →
          ((∃ fault, step.result = .error fault) ↔ ray.isFinite = false) ∧
            ∀ fault, step.result = .error fault →
              e.Refuses fault step ∧
                (fault = .notFinite .traceStart ∨ fault = .notFinite .traceStop)) ∧
      (∀ (camera : String) (angle : α),
        (BadMotion site camera angle → ∃ step, e.motion camera angle = .ok step) ∧
          ∀ step, e.motion camera angle = .ok step →
            ((∃ fault, step.result = .error fault) ↔ BadMotion site camera angle) ∧
              (step.result = .error (.unknownCamera camera) ↔
                site.installation.camera? camera = none) ∧
              ∀ fault, step.result = .error fault → e.Refuses fault step) ∧
      ∀ (camera : String) (ray : Segment α),
        requireFiniteEnds ray .traceStart .traceStop = .ok () →
          (∀ fault, e.watch.offer site.trackerPlan e.now ray ≠ .error fault) ∧
            ∀ fault, e.evidence.trace camera ray ≠ .ok (.error fault) := by
  refine ⟨fun camera ray => ⟨fun infinite => ?_, fun step done => ?_⟩,
    fun camera angle => ⟨motion_of_bad, fun step done => ?_⟩, fun camera ray passed => ⟨?_, ?_⟩⟩
  · obtain ⟨entry, _, answered⟩ := trace_of_infinite e camera infinite
    exact ⟨_, answered⟩
  · have traced := trace_eq_ok done
    exact ⟨traced.error_iff, fun fault refused => traced.refuses refused⟩
  · have moved := motion_eq_ok done
    exact ⟨moved.error_iff, moved.unknown_iff, fun fault refused => moved.refuses refused⟩
  · intro fault refused
    rw [Watch.offer_of_finite ((requireFiniteEnds_eq_ok ray _ _).1 passed)] at refused
    cases refused
  · intro fault refused
    exact Evidence.trace_ne_error _ camera ((requireFiniteEnds_eq_ok ray _ _).1 passed) fault refused

/-- The start of this ray is no number. -/
def brokenRay : Segment Float := ⟨⟨0 / 0, 0.1⟩, ⟨0.5, 0.9⟩⟩

/-- A broken ray and a report of a camera that nobody mounted, while a target is live. -/
theorem claimingRun_refuses : ∃ run,
    (start yard).performAll claimingRun = .ok run ∧ run.engine.targets.length = 1 ∧
      (∃ step, run.engine.trace "a" brokenRay = .ok step ∧
        ∃ fault, run.engine.Refuses fault step) ∧
      ∃ step, run.engine.motion "z" 0 = .ok step ∧
        run.engine.Refuses (.unknownCamera "z") step := by
  obtain ⟨run, done, _, _, live⟩ := claimingRun_outcome
  have broken : brokenRay.isFinite = false := by decide +kernel
  have absent : yard.installation.camera? "z" = none := rfl
  obtain ⟨traces, motions, _⟩ := errors_change_nothing run.engine
  obtain ⟨traced, tracing⟩ := (traces "a" brokenRay).1 broken
  obtain ⟨moved, moving⟩ := (motions "z" 0).1 (.inl absent)
  have refused := (traces "a" brokenRay).2 traced tracing
  have unknown := (motions "z" 0).2 moved moving
  refine ⟨run, done, live, ⟨traced, tracing, ?_⟩, moved, moving, ?_⟩
  · obtain ⟨fault, answered⟩ := refused.1.2 broken
    exact ⟨fault, (refused.2 fault answered).1⟩
  · exact unknown.2.2 _ (unknown.2.1.2 absent)

end Engine

end Sightline
