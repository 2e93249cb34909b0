import Mathlib.Analysis.Convex.Basic
import Sightline.Proofs.Engine.Aborts
import Sightline.Proofs.Engine.Movement
import Sightline.Proofs.Engine.Requests
import Sightline.Proofs.Plane.Centres
import Sightline.Proofs.Plane.Chord

/-!
# Targets stay in convex regions

In exact arithmetic a target is never taken out of a convex region: a ray crosses at points between
its ends, and a target moves along straight lines between places in the region.
-/

set_option autoImplicit false

namespace Sightline

/-! ## Points -/

def Point.pair (p : Point ℝ) : ℝ × ℝ := (p.x, p.y)

/-- The watched rectangle, its sides included. -/
def Bounds.rectangle (b : Bounds ℝ) : Set (ℝ × ℝ) := Set.Icc (b.minX, b.minY) (b.maxX, b.maxY)

variable {region : Set (ℝ × ℝ)}

theorem Point.pair_towards (p q : Point ℝ) (t : ℝ) :
    (p + (q - p).scale t).pair = p.pair + t • (q.pair - p.pair) := by
  apply Prod.ext
  · change p.x + (q.x - p.x) * t = p.x + t * (q.x - p.x)
    ring
  · change p.y + (q.y - p.y) * t = p.y + t * (q.y - p.y)
    ring

theorem mem_towards (convex : Convex ℝ region) {p q : Point ℝ} {t : ℝ} (start : p.pair ∈ region)
    (stop : q.pair ∈ region) (share : t ∈ Set.Icc 0 1) : (p + (q - p).scale t).pair ∈ region := by
  rw [Point.pair_towards]
  exact convex.add_smul_sub_mem start stop share

theorem mem_middle (convex : Convex ℝ region) {p q : Point ℝ} (one : p.pair ∈ region)
    (other : q.pair ∈ region) : ((p + q).scale 0.5).pair ∈ region := by
  have same : ((p + q).scale 0.5).pair = (p + (q - p).scale 0.5).pair := by
    apply Prod.ext
    · change (p.x + q.x) * 0.5 = p.x + (q.x - p.x) * 0.5
      ring
    · change (p.y + q.y) * 0.5 = p.y + (q.y - p.y) * 0.5
      ring
  rw [same]
  exact mem_towards convex one other ⟨by norm_num, by norm_num⟩

/-- Both crossing points lie between the ends of the ray, and so does the middle of them. -/
theorem mem_midpoint (convex : Convex ℝ region) {disc : Disc ℝ} {ray : Segment ℝ}
    {crossing : Crossing ℝ} (start : ray.start.pair ∈ region) (stop : ray.stop.pair ∈ region)
    (crossed : disc.crossing? ray = some crossing) : crossing.midpoint.pair ∈ region := by
  obtain ⟨entryOn, exitOn, entryEq, exitEq⟩ := Disc.crossing?_eq_some crossed
  have entry : crossing.entry.pair ∈ region :=
    entryEq ▸ mem_towards convex start stop ((Disc.onSegment_iff _).1 entryOn)
  have exit : crossing.exit.pair ∈ region :=
    exitEq ▸ mem_towards convex start stop ((Disc.onSegment_iff _).1 exitOn)
  exact mem_towards convex entry exit ⟨by norm_num, by norm_num⟩

theorem leadsWithin_region (convex : Convex ℝ region) {ray : Segment ℝ} {share : ℝ}
    (start : ray.start.pair ∈ region) (stop : ray.stop.pair ∈ region)
    (part : share ∈ Set.Icc 0 1) : ray.LeadsWithin (fun p => p.pair ∈ region) share := by
  intro disc crossing p crossed here
  have aim := mem_midpoint convex start stop crossed
  exact mem_towards convex here aim part

/-! ## Centres of cells -/

theorem Tiling.centerOf_mem (t : Tiling ℝ) {cell : Cell}
    (inside : Raster.Holds t.rows t.columns cell) : (t.centerOf cell).pair ∈ t.bounds.rectangle := by
  obtain ⟨left, right, bottom, top⟩ := (t.covers_centerOf cell).contains inside
  exact ⟨⟨left, bottom⟩, ⟨right.le, top.le⟩⟩

theorem Site.confines_region {site : Site ℝ} (convex : Convex ℝ region)
    (rectangle : site.evidencePlan.tiling.bounds.rectangle ⊆ region) :
    site.Confines fun p => p.pair ∈ region := by
  refine ⟨?_, ?_⟩
  · intro cell inside
    exact rectangle (site.evidencePlan.tiling.centerOf_mem inside)
  · intro p q one other
    exact mem_middle convex one other

/-! ## Targets of a free place -/

namespace Tracker

variable {α : Type} [Scalar α] {plan : TrackerPlan α} {t after : Tracker α} {now : Instant}

theorem spawn_of_free {candidate : Point α} (finite : candidate.isFinite = true)
    (noCamera : plan.cameras = []) (noTarget : t.targets = []) :
    ∃ target verdict set, t.spawn plan now candidate = .ok (verdict, set) ∧
      set.targets = [target] := by
  simp only [spawn, requireFinite, finite, spawnFinite, noCamera, noTarget]
  exact ⟨_, _, _, rfl, rfl⟩

theorem length_offer {ray : Segment α} {claimed : Bool}
    (offered : t.offer plan now ray = .ok (claimed, after)) :
    after.targets.length = t.targets.length := by
  rcases offer_eq_ok offered with ⟨_, rfl, _⟩ | ⟨_, _, _, rfl⟩
  · rfl
  · exact List.length_modify ..

end Tracker

namespace Engine

variable {site : Site ℝ} {first : Engine site}

/-- Whatever an engine is asked for: a convex region around the watched rectangle that has the ends of
all rays has all targets, live and published, at all times. -/
theorem targets_stay_in_region {settings : Settings ℝ} {installation : Installation ℝ}
    {requests : List (Request ℝ)} {served : Step site (List (List (List (Reply site))))}
    (made : Site.create settings installation = .ok site)
    (created : Engine.create site = .ok first) (done : first.serveAll requests = .ok served)
    (convex : Convex ℝ region) (rectangle : settings.bounds.rectangle ⊆ region)
    (share : installation.ownSensitivity.getD settings.sensitivity ∈ Set.Icc 0 1)
    (rays : ∀ command ∈ requests.flatMap (·.commands settings), ∀ ray, command.Brings site ray →
      ray.start.pair ∈ region ∧ ray.stop.pair ∈ region) :
    (∀ earlier later, requests.flatMap (·.commands settings) = earlier ++ later →
      ∃ reached, first.performAll earlier = .ok reached ∧
        Snapshot.All (fun p => p.pair ∈ region) reached.engine.targets) ∧
      Snapshot.All (fun p => p.pair ∈ region) served.engine.targets ∧
      ∀ snapshot ∈ served.published, Snapshot.All (fun p => p.pair ∈ region) snapshot := by
  have follows := Site.follows_of_create made
  have start := create_eq_ok created
  subst start
  have positive : 0 < site.settings.spawnPeriod := follows.sameSettings ▸ follows.sound.period
  obtain ⟨run, carried, sameEngine, samePublished⟩ := leads_of_serveAll positive done
  rw [follows.sameSettings] at carried
  have confines : site.Confines fun p => p.pair ∈ region :=
    Site.confines_region convex (follows.bounds ▸ rectangle)
  have part : site.trackerPlan.sensitivity ∈ Set.Icc 0 1 := by
    rw [Site.trackerPlan, follows.sameSettings, follows.sameInstallation]
    exact share
  have leads : ∀ command ∈ requests.flatMap (·.commands settings), ∀ ray,
      command.Brings site ray →
        ray.LeadsWithin (fun p => p.pair ∈ region) site.trackerPlan.sensitivity := by
    intro command member ray brings
    obtain ⟨start, stop⟩ := rays command member ray brings
    exact leadsWithin_region convex start stop part
  have none : (start site).watch.tracker.All fun p => p.pair ∈ region :=
    fun target live => absurd live List.not_mem_nil
  refine ⟨?_, ?_⟩
  · intro earlier later split
    rw [split] at carried leads
    obtain ⟨reached, _, begun, _⟩ := performAll_append_eq_ok.1 carried
    have early := all_performAll confines
      (fun command member => leads command (List.mem_append_left _ member)) none begun
    exact ⟨reached, begun, early.1⟩
  · rw [← sameEngine, ← samePublished]
    exact all_performAll confines leads none carried

/-! ## A cell in exact arithmetic

One cell of four square metres, in which a tick sets a target even without evidence. -/

noncomputable def exactSettings : Settings ℝ :=
  { Settings.standard with
    bounds := ⟨-1, -1, 1, 1⟩, columns := 1, rows := 1, sensitivity := 1 / 2, spawnThreshold := -1 }

theorem exactSettings_sound : exactSettings.Sound := by
  refine ⟨?_, Nat.one_pos, Nat.one_pos, ?_, ?_, by decide⟩
  · norm_num [Bounds.isOpen, exactSettings]
  · have least : ((0 : ℕ) : ℝ) < 0.75 := by norm_num
    have most : (0.75 : ℝ) ≤ ((1 : ℕ) : ℝ) := by norm_num
    exact Bool.and_eq_true_iff.2 ⟨decide_eq_true least, decide_eq_true most⟩
  · intro entry member
    have positive : ((0 : ℕ) : ℝ) < entry.2 := by
      simp only [Settings.positives, List.mem_cons, List.not_mem_nil, or_false] at member
      rcases member with rfl | rfl | rfl
      · change ((0 : ℕ) : ℝ) < 0.6
        norm_num
      · change ((0 : ℕ) : ℝ) < 0.025
        norm_num
      · change ((0 : ℕ) : ℝ) < 10.0
        norm_num
    exact Bool.and_eq_true_iff.2 ⟨decide_eq_true positive, rfl⟩

noncomputable def exactYard : Site ℝ where
  settings := exactSettings
  installation := .empty
  evidencePlan :=
    { tiling := ⟨exactSettings.bounds, 1, 1, rfl, exactSettings_sound.roomy, Nat.one_pos, Nat.one_pos⟩
      increment := exactSettings.increment
      retention := exactSettings.retention
      maskThreshold := exactSettings.maskThreshold }

theorem exactYard_created : Site.create exactSettings .empty = .ok exactYard := by
  have checked : exactSettings.checked = .ok exactSettings := by
    rw [Settings.checked, Settings.problem?_eq_none.2 exactSettings_sound]
  have cut : Tiling.cut exactSettings.bounds exactSettings.columns exactSettings.rows =
      .ok exactYard.evidencePlan.tiling := by
    rw [Tiling.cut, dif_pos ⟨rfl, exactSettings_sound.roomy⟩, dif_pos ⟨Nat.one_pos, Nat.one_pos⟩]
    rfl
  rw [Site.create, checked]
  change (EvidencePlan.ofSettings exactSettings >>= _) = _
  rw [EvidencePlan.ofSettings, cut]
  rfl

theorem exactYard_spawns :
    ∃ target, (start exactYard).spawning.2.watch.tracker.targets = [target] := by
  have value : (-1 : ℝ) ≤ (start exactYard).evidence.brightest.value := by
    rcases Evidence.peak_best (start exactYard).evidence.surface with ⟨none, _⟩ | ⟨_, _, above, _⟩
    · exact (congrArg Prod.snd none).ge
    · exact le_of_lt above
  have free : ∃ target verdict set,
      (start exactYard).watch.tracker.spawn exactYard.trackerPlan (start exactYard).now
          (start exactYard).evidence.brightest.position = .ok (verdict, set) ∧
        set.targets = [target] := Tracker.spawn_of_free rfl rfl rfl
  obtain ⟨target, verdict, after, set, targets⟩ := free
  rcases spawning_cases (e := start exactYard) with ⟨weak, _⟩ | ⟨_, ⟨_, refused, _⟩ | ⟨_, same, _⟩⟩
  · exact absurd value weak
  · rw [set] at refused
    cases refused
  · rw [set] at same
    cases same
    exact ⟨target, targets⟩

/-- A target is set in the middle, and a ray from the left to the right passes it. -/
noncomputable def passingRun : List (Command ℝ) := [.tick, .trace "a" ⟨⟨-2, 1 / 2⟩, ⟨2, 1 / 2⟩⟩]

theorem passingRun_leaves_target {run : Step exactYard (List (Reply exactYard))}
    (done : (start exactYard).performAll passingRun = .ok run) : run.engine.targets.length = 1 := by
  obtain ⟨_, _, one, rest, rfl⟩ := performAll_cons_eq_ok.1 done
  obtain ⟨_, _, two, stop, rfl⟩ := performAll_cons_eq_ok.1 rest
  cases stop
  obtain ⟨target, single⟩ := exactYard_spawns
  cases perform_effect one with
  | tick ticked does same =>
      subst same
      have expired := does.expired
      rw [Tracker.mergedOnce_of_few (by simp [single])] at expired
      obtain ⟨_, left⟩ := Tracker.expire_eq_ok expired
      have kept : ticked.engine.watch.tracker.targets.length = 1 := by
        rw [left, single]
        simp [Target.isStale, start, Instant.zero]
      cases perform_effect two with
      | ray traced accepted same =>
          subst same
          cases accepted with
          | claimed offered _ _ _ _ | gathered offered _ _ _ _ =>
              exact (List.length_map _).trans ((Tracker.length_offer offered).trans kept)

/-- The region is wider than the cell, to have both ends of the ray. -/
theorem passingRun_stays : ∃ served, (start exactYard).serveAll [.perform passingRun] = .ok served ∧
    served.engine.targets.length = 1 ∧
    Snapshot.All (fun p => p.pair ∈ Set.Icc ((-2 : ℝ), (-1 : ℝ)) (2, 1)) served.engine.targets := by
  have created : Engine.create exactYard = .ok (start exactYard) := rfl
  have inTime : (Command.clockAfter passingRun).Reaches exactYard.trackerPlan.ttl := by
    unfold Instant.Reaches
    decide
  obtain ⟨run, done⟩ := exists_performAll created
    (fun _ _ ray _ => exactYard.evidencePlan.tiling.hasRoom.not_blocks ray) inTime
  obtain ⟨served, answered, same⟩ : ∃ served,
      (start exactYard).serveAll [.perform passingRun] = .ok served ∧ served.engine = run.engine := by
    simp only [serveAll, serve, done]
    exact ⟨_, rfl, rfl⟩
  have stays := targets_stay_in_region exactYard_created created answered
    (convex_Icc ((-2 : ℝ), (-1 : ℝ)) (2, 1)) ?_ ?_ ?_
  · exact ⟨served, answered, same ▸ passingRun_leaves_target done, stays.2.1⟩
  · apply Set.Icc_subset_Icc
    · constructor <;> norm_num [exactSettings]
    · constructor <;> norm_num [exactSettings]
  · change (1 / 2 : ℝ) ∈ Set.Icc 0 1
    constructor <;> norm_num
  · rintro command member ray ⟨camera, brings, _⟩
    simp only [Request.commands, passingRun, List.flatMap_cons, List.flatMap_nil, List.append_nil,
      List.mem_cons, List.not_mem_nil, or_false] at member
    rcases member with rfl | rfl
    · cases brings
    · cases brings
      norm_num [Point.pair]

end Engine

end Sightline
