import Sightline.Engine
import Sightline.Proofs.Installation.Building
import Sightline.Proofs.Plane.Turns

/-!
# Rays of mounted cameras

A ray starts where its camera is kept clear of targets and runs along the sum of three headings: that of
the stand, that of the camera on it and that of the event.  So it makes no difference to its direction
which of them is turned.
-/

set_option autoImplicit false

namespace Sightline

namespace Installation

variable {α : Type} [Scalar α]

/-- The camera of a name is mounted with these poses of its stand and of itself. -/
def Mounted (i : Installation α) (name : String) (standPose ownPose : Pose α) : Prop :=
  ∃ stand, i.camera? name = some ⟨name, stand, standPose.placement.comp ownPose.placement⟩

/-- The installations that can be put together: cameras are mounted one after the other. -/
inductive Assembled : Installation α → Prop
  | blank (sensitivity : Option α) : Assembled ⟨.empty, sensitivity⟩
  | mount {i : Installation α} (before : Assembled i) (name : String) (stand : Option String)
      (standPose ownPose : Pose α) : Assembled (i.mount name stand standPose ownPose)

variable {i : Installation α} {name : String} {standPose ownPose : Pose α}

theorem mounted_mount (i : Installation α) (name : String) (stand : Option String)
    (standPose ownPose : Pose α) :
    (i.mount name stand standPose ownPose).Mounted name standPose ownPose :=
  ⟨stand, by rw [InstallationPlan.camera?_mount, if_pos rfl]⟩

theorem Assembled.mounted {camera : Camera α} (assembled : i.Assembled)
    (there : i.camera? name = some camera) : ∃ standPose ownPose, i.Mounted name standPose ownPose := by
  induction assembled with
  | blank sensitivity => cases there
  | @mount i _ other stand standPose ownPose ih =>
      by_cases same : name = other
      · subst same
        exact ⟨standPose, ownPose, i.mounted_mount name stand standPose ownPose⟩
      · rw [InstallationPlan.camera?_mount, if_neg same] at there
        obtain ⟨earlierStand, earlierOwn, earlier, kept⟩ := ih there
        exact ⟨earlierStand, earlierOwn, earlier, by rw [InstallationPlan.camera?_mount, if_neg same, kept]⟩

theorem assembled_mountEach {plan : InstallationPlan α} {after : Installation α}
    {mountings : List (StandSpec α × String)} (assembled : i.Assembled)
    (done : plan.mountEach i mountings = .ok after) : after.Assembled := by
  induction mountings generalizing i with
  | nil =>
      cases done
      exact assembled
  | cons mounting rest ih =>
      obtain ⟨stand, name⟩ := mounting
      unfold InstallationPlan.mountEach at done
      cases described : plan.spec? name with
      | none =>
          rw [described] at done
          cases done
      | some spec =>
          rw [described] at done
          exact ih (assembled.mount name _ _ _) done

theorem assembled_build {plan : InstallationPlan α} (done : plan.build = .ok i) : i.Assembled := by
  rw [InstallationPlan.build_eq] at done
  exact assembled_mountEach (.blank plan.sensitivity) done

/-- A ray as the poses have it with which its camera is mounted. -/
structure Casts (i : Installation α) (name : String) (standPose ownPose : Pose α) (angle reach : α)
    (ray : Segment α) : Prop where
  cast : i.ray name angle reach = .ok ray
  /-- It starts where the camera is, and targets are kept off there. -/
  own : (i.camera? name).map Camera.position = some ray.start
  avoided : ∀ settings, ray.start ∈ (TrackerPlan.ofSettings settings i).cameras
  start : ray.start =
    let across := Point.ofDegrees standPose.heading
    ⟨standPose.x + (across.x * ownPose.x - across.y * ownPose.y),
      standPose.y + (across.y * ownPose.x + across.x * ownPose.y)⟩
  stop : ray.stop =
    ray.start + (Point.ofDegrees (standPose.heading + ownPose.heading + angle)).scale reach
  length : ray.along.norm = reach

end Installation

namespace Circular

variable {c : Circular} {i : Installation c.Number} {name : String} {standPose ownPose : Pose c.Number}

theorem ray_eq (mounted : i.Mounted name standPose ownPose) (angle reach : c.Number) :
    let start := (standPose.placement.comp ownPose.placement).shift
    i.ray name angle reach = .ok ⟨start,
      start + (Point.ofDegrees (standPose.heading + ownPose.heading + angle)).scale reach⟩ := by
  obtain ⟨stand, found⟩ := mounted
  have finite : Scalar.isFinite angle = true := rfl
  simp only [Installation.ray, found, finite, if_true]
  refine congrArg Except.ok (congrArg₂ Segment.mk (carry_origin _) ?_)
  rw [carry_tip, rotation_mounted, tip_eq]
  exact congrArg₂ Point.mk (add_comm _ _) (add_comm _ _)

theorem along_start_add (start way : Point c.Number) : (⟨start, start + way⟩ : Segment c.Number).along = way :=
  congrArg₂ Point.mk (add_sub_cancel_left start.x way.x) (add_sub_cancel_left start.y way.y)

theorem casts_ray (mounted : i.Mounted name standPose ownPose) (angle : c.Number) {reach : c.Number}
    (positive : 0 < reach) : ∃ ray, i.Casts name standPose ownPose angle reach ray := by
  have cast := ray_eq mounted angle reach
  obtain ⟨stand, found⟩ := mounted
  refine ⟨_, cast, ?_, fun settings => ?_, shift_mounted standPose ownPose, rfl, ?_⟩
  · rw [found]
    rfl
  · have filed := Directory.mem_of_get? found
    exact List.mem_map.2 ⟨_, List.mem_map.2 ⟨_, filed, rfl⟩, rfl⟩
  · rw [along_start_add]
    exact norm_ofDegrees_scale _ positive

/-- Turning the stand leads to the same direction as adding the turn to the event. -/
theorem along_turned {turned : Installation c.Number} {turn : c.Number}
    (mounted : i.Mounted name standPose ownPose)
    (mountedToo : turned.Mounted name { standPose with heading := standPose.heading + turn } ownPose)
    (angle reach : c.Number) :
    ∃ one other, turned.ray name angle reach = .ok one ∧ i.ray name (angle + turn) reach = .ok other ∧
      one.along = other.along := by
  refine ⟨_, _, ray_eq mountedToo angle reach, ray_eq mounted (angle + turn) reach, ?_⟩
  have sum : standPose.heading + turn + ownPose.heading + angle =
      standPose.heading + ownPose.heading + (angle + turn) := by
    ring
  rw [along_start_add, along_start_add, sum]

/-- With any cosine and sine that keep to the circle and add up, the ray of a mounted camera starts at the
place that is kept clear for the camera, runs for its reach along the sum of all headings, and runs the
same way whether the stand is turned or the event. -/
theorem rays_follow_their_mounting (c : Circular) :
    (∀ i : Installation c.Number, i.Assembled → ∀ name camera, i.camera? name = some camera →
        ∃ standPose ownPose, i.Mounted name standPose ownPose) ∧
      (∀ (plan : InstallationPlan c.Number) i, plan.build = .ok i → i.Assembled) ∧
      ∀ (i : Installation c.Number) name standPose ownPose, i.Mounted name standPose ownPose →
        ∀ angle reach, 0 < reach →
          (∃ ray, i.Casts name standPose ownPose angle reach ray) ∧
          ∀ (turned : Installation c.Number) turn,
            turned.Mounted name { standPose with heading := standPose.heading + turn } ownPose →
              ∃ one other, turned.ray name angle reach = .ok one ∧
                i.ray name (angle + turn) reach = .ok other ∧ one.along = other.along := by
  refine ⟨fun i assembled name camera there => assembled.mounted there,
    fun plan i done => Installation.assembled_build done,
    fun i name standPose ownPose mounted angle reach positive =>
      ⟨casts_ray mounted angle positive, fun turned turn mountedToo => ?_⟩⟩
  exact along_turned mounted mountedToo angle reach

/-- A camera beside the middle of a stand that has been turned. -/
noncomputable def swivel (heading : standard.Number) : Installation standard.Number :=
  Installation.empty.mount "a" none ⟨1, 1, heading⟩ ⟨1, 0, 0⟩

theorem swivel_casts :
    (∃ standPose ownPose, (swivel 0).Mounted "a" standPose ownPose) ∧
      (∃ ray, (swivel 0).Casts "a" ⟨1, 1, 0⟩ ⟨1, 0, 0⟩ 0 1 ray) ∧
      ∃ one other, (swivel (0 + 1)).ray "a" 0 1 = .ok one ∧ (swivel 0).ray "a" (0 + 1) 1 = .ok other ∧
        one.along = other.along := by
  obtain ⟨mountings, _, rays⟩ := rays_follow_their_mounting standard
  have mounted : ∀ heading, (swivel heading).Mounted "a" ⟨1, 1, heading⟩ ⟨1, 0, 0⟩ := fun heading =>
    Installation.mounted_mount _ _ _ _ _
  have assembled : (swivel 0).Assembled := .mount (.blank none) _ _ _ _
  have positive : (0 : standard.Number) < 1 := zero_lt_one' ℝ
  obtain ⟨casts, turned⟩ := rays (swivel 0) "a" _ _ (mounted 0) 0 1 positive
  obtain ⟨stand, there⟩ := mounted 0
  exact ⟨mountings (swivel 0) assembled "a" _ there, casts, turned (swivel (0 + 1)) 1 (mounted (0 + 1))⟩

end Circular

end Sightline
