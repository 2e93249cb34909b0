import Mathlib.Data.List.Find
import Mathlib.Tactic.Push
import Sightline.Installation
import Sightline.Proofs.Text.Bytes
import Sightline.Scalar.Binary64

/-!
# Building an installation

Mounting goes through the stands and through the names of each, and stops at the first name that no camera
has.  If there is none, each mounted name ends with what its last mounting gave it, so what comes out can
be told from the plan: the last mounting of a name says where its camera is, the last camera of the name
says how it stands there, and cameras that are not mounted have no part in it.
-/

set_option autoImplicit false

namespace Sightline

/-! ## The first and the last of a kind -/

section Kinds

variable {β : Type} {kind : β → Prop} {first item : β} {items : List β}

structure FirstOf (kind : β → Prop) (items : List β) (item : β) : Prop where
  own : kind item
  before : ∃ earlier later, items = earlier ++ item :: later ∧ ∀ other ∈ earlier, ¬ kind other

structure LastOf (kind : β → Prop) (items : List β) (item : β) : Prop where
  own : kind item
  after : ∃ earlier later, items = earlier ++ item :: later ∧ ∀ other ∈ later, ¬ kind other

theorem FirstOf.mem (found : FirstOf kind items item) : item ∈ items := by
  obtain ⟨_, earlier, later, rfl, _⟩ := found
  simp

theorem LastOf.mem (found : LastOf kind items item) : item ∈ items := by
  obtain ⟨_, earlier, later, rfl, _⟩ := found
  simp

theorem FirstOf.cons (found : FirstOf kind items item) (other : ¬ kind first) :
    FirstOf kind (first :: items) item := by
  obtain ⟨own, earlier, later, rfl, before⟩ := found
  exact ⟨own, first :: earlier, later, rfl, List.forall_mem_cons.2 ⟨other, before⟩⟩

theorem LastOf.of_cons (found : LastOf kind (first :: items) item) :
    LastOf kind items item ∨ first = item ∧ ∀ other ∈ items, ¬ kind other := by
  obtain ⟨own, earlier, later, split, after⟩ := found
  cases earlier with
  | nil =>
      obtain ⟨rfl, rfl⟩ := List.cons.inj split
      exact .inr ⟨rfl, after⟩
  | cons head earlier =>
      obtain ⟨rfl, rfl⟩ := List.cons.inj split
      exact .inl ⟨own, earlier, later, rfl, after⟩

theorem find?_reverse_eq_some [DecidablePred kind] :
    items.reverse.find? (fun other => decide (kind other)) = some item ↔ LastOf kind items item := by
  rw [List.find?_eq_some_iff_append, decide_eq_true_iff]
  constructor
  · rintro ⟨own, later, earlier, split, after⟩
    refine ⟨own, earlier.reverse, later.reverse, ?_, fun other member => ?_⟩
    · rw [← List.reverse_reverse items, split]
      simp
    · simpa using after other (List.mem_reverse.1 member)
  · rintro ⟨own, earlier, later, rfl, after⟩
    refine ⟨own, later.reverse, earlier.reverse, by simp, fun other member => ?_⟩
    simpa using after other (List.mem_reverse.1 member)

theorem exists_lastOf (kind : β → Prop) [DecidablePred kind] (member : item ∈ items) (own : kind item) :
    ∃ last, LastOf kind items last := by
  cases found : items.reverse.find? fun other => decide (kind other) with
  | none => exact absurd (decide_eq_true own) (List.find?_eq_none.1 found item (List.mem_reverse.2 member))
  | some last => exact ⟨last, find?_reverse_eq_some.1 found⟩

end Kinds

namespace InstallationPlan

variable {α : Type} [Scalar α]

/-! ## Plans -/

/-- What the stands mount, stand after stand and name after name. -/
def mountings (plan : InstallationPlan α) : List (StandSpec α × String) :=
  plan.stands.flatMap fun stand => stand.cameras.map fun name => (stand, name)

/-- No camera of the plan has the name. -/
def Undescribed (plan : InstallationPlan α) (name : String) : Prop :=
  ∀ spec ∈ plan.cameras, spec.name ≠ name

/-- The camera of a name stands where the last mounting of the name puts it, as the last camera of the name
says. -/
structure Places (plan : InstallationPlan α) (name : String) (camera : Camera α) : Prop where
  named : camera.name = name
  places : ∃ mounting spec, LastOf (fun mounting => mounting.2 = name) plan.mountings mounting ∧
    LastOf (fun spec => spec.name = name) plan.cameras spec ∧
    camera.stand = some mounting.1.name ∧
    camera.placement = mounting.1.pose.placement.comp spec.pose.placement

/-- An installation as a plan has it. -/
structure Describes (plan : InstallationPlan α) (i : Installation α) : Prop where
  mounted : ∀ name, name ∈ i.cameras.entries.map (·.1) ↔ ∃ mounting ∈ plan.mountings, mounting.2 = name
  ascending : (i.cameras.entries.map (·.1)).Pairwise fun first second => bytesOf first < bytesOf second
  placed : ∀ entry ∈ i.cameras.entries, plan.Places entry.1 entry.2
  positions : ∀ p, p ∈ i.positions ↔ ∃ name camera, plan.Places name camera ∧ p = camera.position
  sensitivity : i.sensitivity = plan.sensitivity

/-- The plan without the cameras that no stand mounts. -/
def onlyMounted (plan : InstallationPlan α) : InstallationPlan α :=
  { plan with cameras := plan.cameras.filter fun spec => plan.mountings.any (·.2 = spec.name) }

variable {plan other : InstallationPlan α} {name : String} {spec : CameraSpec α}
  {i after : Installation α} {mountings : List (StandSpec α × String)}

omit [Scalar α] in
theorem spec?_eq_some : plan.spec? name = some spec ↔
    LastOf (fun spec => spec.name = name) plan.cameras spec :=
  find?_reverse_eq_some

omit [Scalar α] in
theorem spec?_eq_none : plan.spec? name = none ↔ plan.Undescribed name := by
  unfold spec? Undescribed
  simp

/-! ## Mounting one after the other -/

/-- Mounts names one after the other, whatever stand they are on. -/
def mountEach (plan : InstallationPlan α) :
    Installation α → List (StandSpec α × String) → Except (Fault α) (Installation α)
  | i, [] => .ok i
  | i, (stand, name) :: later =>
    match plan.spec? name with
    | none => .error (.undefinedCamera stand.name name)
    | some spec => plan.mountEach (i.mount name (some stand.name) stand.pose spec.pose) later

theorem mountEach_append (first later : List (StandSpec α × String)) :
    plan.mountEach i (first ++ later) = (do
      let mounted ← plan.mountEach i first
      plan.mountEach mounted later) := by
  induction first generalizing i with
  | nil => rfl
  | cons mounting rest ih =>
      obtain ⟨stand, name⟩ := mounting
      simp only [List.cons_append, mountEach]
      cases plan.spec? name with
      | none => rfl
      | some spec => exact ih

theorem mountAll_eq (stand : StandSpec α) (names : List String) :
    plan.mountAll stand i names = plan.mountEach i (names.map fun name => (stand, name)) := by
  induction names generalizing i with
  | nil => rfl
  | cons name rest ih =>
      simp only [mountAll, List.map_cons, mountEach]
      cases plan.spec? name with
      | none => rfl
      | some spec => exact ih

theorem mountStands_eq (stands : List (StandSpec α)) : plan.mountStands i stands =
    plan.mountEach i (stands.flatMap fun stand => stand.cameras.map fun name => (stand, name)) := by
  induction stands generalizing i with
  | nil => rfl
  | cons stand rest ih =>
      rw [mountStands, List.flatMap_cons, mountEach_append, mountAll_eq]
      simp only [ih]

theorem build_eq (plan : InstallationPlan α) :
    plan.build = plan.mountEach ⟨.empty, plan.sensitivity⟩ plan.mountings :=
  mountStands_eq plan.stands

/-- What mountings do to an installation. -/
structure Mounts (plan : InstallationPlan α) (mountings : List (StandSpec α × String))
    (i after : Installation α) : Prop where
  sensitivity : after.sensitivity = i.sensitivity
  own : ∀ name mounting spec, LastOf (fun mounting => mounting.2 = name) mountings mounting →
    LastOf (fun spec => spec.name = name) plan.cameras spec →
      after.camera? name =
        some ⟨name, some mounting.1.name, mounting.1.pose.placement.comp spec.pose.placement⟩
  others : ∀ name, (∀ mounting ∈ mountings, mounting.2 ≠ name) → after.camera? name = i.camera? name

theorem camera?_mount (i : Installation α) (name other : String) (stand : Option String)
    (standPose ownPose : Pose α) : (i.mount name stand standPose ownPose).camera? other =
      if other = name then some ⟨name, stand, standPose.placement.comp ownPose.placement⟩
      else i.camera? other :=
  Directory.get?_insert ..

theorem mounts_cons {stand : StandSpec α} (described : plan.spec? name = some spec)
    (rest : plan.Mounts mountings (i.mount name (some stand.name) stand.pose spec.pose) after) :
    plan.Mounts ((stand, name) :: mountings) i after := by
  refine ⟨rest.sensitivity, fun other mounting spec' last lastSpec => ?_, fun other none => ?_⟩
  · rcases last.of_cons with later | ⟨rfl, none⟩
    · exact rest.own other mounting spec' later lastSpec
    · obtain rfl : name = other := last.own
      rw [spec?_eq_some.2 lastSpec] at described
      cases described
      rw [rest.others name none, camera?_mount, if_pos rfl]
  · obtain ⟨differs, none⟩ := List.forall_mem_cons.1 none
    rw [rest.others other none, camera?_mount, if_neg (Ne.symm differs)]

theorem mountEach_cases (plan : InstallationPlan α) (i : Installation α)
    (mountings : List (StandSpec α × String)) :
    (∃ mounting, FirstOf (fun mounting => plan.Undescribed mounting.2) mountings mounting ∧
        plan.mountEach i mountings = .error (.undefinedCamera mounting.1.name mounting.2)) ∨
      (∀ mounting ∈ mountings, ¬ plan.Undescribed mounting.2) ∧
        ∃ after, plan.mountEach i mountings = .ok after ∧ plan.Mounts mountings i after := by
  induction mountings generalizing i with
  | nil =>
      refine .inr ⟨List.forall_mem_nil _, i, rfl, rfl, ?_, fun _ _ => rfl⟩
      intro name mounting spec last
      cases last.mem
  | cons mounting rest ih =>
      obtain ⟨stand, name⟩ := mounting
      unfold mountEach
      cases described : plan.spec? name with
      | none =>
          exact .inl ⟨_, ⟨spec?_eq_none.1 described, [], rest, rfl, List.forall_mem_nil _⟩, rfl⟩
      | some spec =>
          have defined : ¬ plan.Undescribed name := by
            rw [← spec?_eq_none, described]
            exact Option.some_ne_none spec
          rcases ih (i.mount name (some stand.name) stand.pose spec.pose) with
            ⟨first, found, failed⟩ | ⟨all, after, done, mounts⟩
          · exact .inl ⟨first, found.cons defined, failed⟩
          · exact .inr ⟨List.forall_mem_cons.2 ⟨defined, all⟩, after, done, mounts_cons described mounts⟩

/-! ## The whole plan -/

theorem build_cases (plan : InstallationPlan α) :
    (∃ mounting, FirstOf (fun mounting => plan.Undescribed mounting.2) plan.mountings mounting ∧
        plan.build = .error (.undefinedCamera mounting.1.name mounting.2)) ∨
      (∀ mounting ∈ plan.mountings, ¬ plan.Undescribed mounting.2) ∧
        ∃ i, plan.build = .ok i ∧ plan.Mounts plan.mountings ⟨.empty, plan.sensitivity⟩ i := by
  rw [build_eq]
  exact plan.mountEach_cases _ plan.mountings

omit [Scalar α] in
theorem exists_last (described : ∀ mounting ∈ plan.mountings, ¬ plan.Undescribed mounting.2)
    (mounted : ∃ mounting ∈ plan.mountings, mounting.2 = name) :
    ∃ mounting spec, LastOf (fun mounting => mounting.2 = name) plan.mountings mounting ∧
      LastOf (fun spec => spec.name = name) plan.cameras spec := by
  obtain ⟨mounting, member, rfl⟩ := mounted
  have defined := described mounting member
  unfold Undescribed at defined
  push Not at defined
  obtain ⟨spec, specMember, named⟩ := defined
  obtain ⟨last, lastOf⟩ := exists_lastOf (fun other => other.2 = mounting.2) member rfl
  obtain ⟨lastSpec, lastSpecOf⟩ :=
    exists_lastOf (fun other => other.name = mounting.2) specMember named
  exact ⟨last, lastSpec, lastOf, lastSpecOf⟩

section Built

variable (mounts : plan.Mounts plan.mountings ⟨.empty, plan.sensitivity⟩ i)
  (described : ∀ mounting ∈ plan.mountings, ¬ plan.Undescribed mounting.2)
include mounts described

/-- In a built installation a name finds the camera that the plan places under it. -/
theorem Mounts.camera?_eq_some {camera : Camera α} :
    i.camera? name = some camera ↔ plan.Places name camera := by
  constructor
  · intro found
    by_cases mounted : ∃ mounting ∈ plan.mountings, mounting.2 = name
    · obtain ⟨mounting, spec, last, lastSpec⟩ := exists_last described mounted
      rw [mounts.own name mounting spec last lastSpec] at found
      cases found
      exact ⟨rfl, mounting, spec, last, lastSpec, rfl, rfl⟩
    · push Not at mounted
      rw [mounts.others name mounted] at found
      cases found
  · rintro ⟨named, mounting, spec, last, lastSpec, stand, placement⟩
    obtain ⟨_, _, _⟩ := camera
    cases named
    cases stand
    cases placement
    exact mounts.own _ mounting spec last lastSpec

theorem Mounts.mem_entries {camera : Camera α} :
    (name, camera) ∈ i.cameras.entries ↔ plan.Places name camera := by
  rw [← mounts.camera?_eq_some described]
  exact ⟨fun member => i.cameras.get?_of_mem member, Directory.mem_of_get?⟩

theorem Mounts.describes : plan.Describes i where
  mounted name := by
    constructor
    · intro member
      obtain ⟨⟨name, camera⟩, filed, rfl⟩ := List.mem_map.1 member
      obtain ⟨_, mounting, _, last, _⟩ := (mounts.mem_entries described).1 filed
      exact ⟨mounting, last.mem, last.own⟩
    · intro mounted
      obtain ⟨mounting, spec, last, lastSpec⟩ := exists_last described mounted
      exact List.mem_map.2 ⟨_, Directory.mem_of_get? (mounts.own name mounting spec last lastSpec), rfl⟩
  ascending := by
    rw [List.pairwise_map]
    exact i.cameras.ascending.imp fun before => bytesOf_lt before
  placed _ filed := (mounts.mem_entries described).1 filed
  positions p := by
    constructor
    · intro member
      obtain ⟨_, value, rfl⟩ := List.mem_map.1 member
      obtain ⟨⟨name, camera⟩, filed, rfl⟩ := List.mem_map.1 value
      exact ⟨name, camera, (mounts.mem_entries described).1 filed, rfl⟩
    · rintro ⟨name, camera, places, rfl⟩
      have filed := (mounts.mem_entries described).2 places
      exact List.mem_map.2 ⟨camera, List.mem_map.2 ⟨(name, camera), filed, rfl⟩, rfl⟩
  sensitivity := mounts.sensitivity

end Built

/-! ## Cameras that are not mounted -/

omit [Scalar α] in
theorem spec?_onlyMounted (mounted : ∃ mounting ∈ plan.mountings, mounting.2 = name) :
    plan.onlyMounted.spec? name = plan.spec? name := by
  unfold spec? onlyMounted
  rw [← List.filter_reverse, List.find?_filter]
  refine List.find?_congr fun spec _ => ?_
  by_cases own : spec.name = name
  · subst own
    obtain ⟨mounting, member, named⟩ := mounted
    have any : plan.mountings.any (·.2 = spec.name) = true :=
      List.any_eq_true.2 ⟨mounting, member, decide_eq_true named⟩
    simp [any]
  · simp [own]

theorem mountEach_congr (same : ∀ mounting ∈ mountings, plan.spec? mounting.2 = other.spec? mounting.2) :
    plan.mountEach i mountings = other.mountEach i mountings := by
  induction mountings generalizing i with
  | nil => rfl
  | cons mounting rest ih =>
      obtain ⟨stand, name⟩ := mounting
      obtain ⟨here, later⟩ := List.forall_mem_cons.1 same
      simp only [mountEach, here]
      cases other.spec? name with
      | none => rfl
      | some spec => exact ih later

theorem build_onlyMounted (plan : InstallationPlan α) : plan.onlyMounted.build = plan.build := by
  rw [build_eq, build_eq]
  exact mountEach_congr fun mounting member => spec?_onlyMounted ⟨mounting, member, rfl⟩

/-- Building fails exactly if a stand mounts a name that no camera has, and tells the first such stand and
name.  Otherwise the installation has what the plan mounts, each name once and in the order of its bytes,
where its last mounting and the last camera of the name put it.  What is not mounted makes no
difference. -/
theorem building_follows_plan (plan : InstallationPlan α) :
    ((∃ fault, plan.build = .error fault) ↔
        ∃ mounting ∈ plan.mountings, plan.Undescribed mounting.2) ∧
      (∀ fault, plan.build = .error fault →
        ∃ mounting, FirstOf (fun mounting => plan.Undescribed mounting.2) plan.mountings mounting ∧
          fault = .undefinedCamera mounting.1.name mounting.2) ∧
      (∀ i, plan.build = .ok i → plan.Describes i) ∧
      plan.onlyMounted.build = plan.build := by
  rcases plan.build_cases with ⟨mounting, first, failed⟩ | ⟨described, built, done, mounts⟩
  · rw [failed]
    refine ⟨⟨fun _ => ⟨mounting, first.mem, first.own⟩, fun _ => ⟨_, rfl⟩⟩, ?_, ?_,
      plan.build_onlyMounted.trans failed⟩
    · rintro fault same
      cases same
      exact ⟨mounting, first, rfl⟩
    · intro i impossible
      cases impossible
  · rw [done]
    refine ⟨⟨?_, ?_⟩, ?_, ?_, plan.build_onlyMounted.trans done⟩
    · rintro ⟨fault, impossible⟩
      cases impossible
    · rintro ⟨mounting, member, undescribed⟩
      exact absurd undescribed (described mounting member)
    · intro fault impossible
      cases impossible
    · rintro i same
      cases same
      exact mounts.describes described

/-- Two stands that mount cameras, one of which two cameras share a name and one is mounted nowhere. -/
def hallPlan : InstallationPlan Float where
  stands := [⟨"north", ⟨0, 4, 0⟩, ["b", "a"]⟩, ⟨"south", ⟨0, -4, 180⟩, ["a"]⟩]
  cameras := [⟨"a", "", ⟨1, 0, 0⟩⟩, ⟨"b", "", ⟨0, 0, 0⟩⟩, ⟨"spare", "", ⟨9, 9, 0⟩⟩, ⟨"a", "", ⟨2, 0, 0⟩⟩]
  sensitivity := none

/-- The same stands, with a description of one of their cameras. -/
def shortPlan : InstallationPlan Float := { hallPlan with cameras := [⟨"b", "", ⟨0, 0, 0⟩⟩] }

theorem hallPlan_is_followed :
    (∃ i, hallPlan.build = .ok i ∧ i.cameras.entries.map (·.1) = ["a", "b"] ∧ hallPlan.Describes i) ∧
    ∃ mounting,
      FirstOf (fun mounting => shortPlan.Undescribed mounting.2) shortPlan.mountings mounting ∧
      (Fault.undefinedCamera "north" "a" : Fault Float) = .undefinedCamera mounting.1.name mounting.2 := by
  have names : yields hallPlan.build (fun i => i.cameras.entries.map (·.1) = ["a", "b"]) = true := by
    decide +kernel
  obtain ⟨i, done, named⟩ := yields_iff.1 names
  refine ⟨⟨i, done, of_decide_eq_true named, (building_follows_plan hallPlan).2.2.1 i done⟩, ?_⟩
  exact (building_follows_plan shortPlan).2.1 _ rfl

end InstallationPlan

end Sightline
