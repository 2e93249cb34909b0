import Mathlib.Algebra.BigOperators.Group.List.Basic
import Mathlib.Algebra.GroupWithZero.Nat
import Mathlib.Logic.Function.Iterate
import Sightline.Evidence.Command
import Sightline.Proofs.Tracker.Rules

/-!
# Levels of evidence

A stroke changes the cells that it hits by one fixed map, once for each sample.  So after any number
of rays without a decay the level of a cell is an iterate of that map, and only the number of hits
matters: rays leave the same evidence in whatever order they come, however the sum is rounded.
-/

set_option autoImplicit false

namespace Sightline

variable {α : Type} [Scalar α]

/-! ## Strokes -/

namespace Stroke

variable {rows columns : Nat}

/-- How many samples of a stroke fall into a cell. -/
def hits (s : Stroke α) (t : Tiling α) (cell : Cell) : Nat :=
  s.samples.countP fun p => t.cellOf p = cell

theorem value_mark (s : Stroke α) (t : Tiling α) (change : α → α)
    (raster : Raster α rows columns) (cell : Cell) (inside : Raster.Holds rows columns cell) :
    (s.mark t change raster).value cell inside =
      change^[s.hits t cell] (raster.value cell inside) := by
  rw [mark_eq_foldl, hits]
  generalize s.samples = points
  induction points generalizing raster with
  | nil => rfl
  | cons p rest ih =>
      rw [List.foldl_cons, ih, List.countP_cons]
      by_cases here : t.cellOf p = cell
      · subst here
        rw [Raster.value_change_self]
        simp
      · rw [Raster.value_change_of_ne raster change (Ne.symm here)]
        simp [here]

end Stroke

/-! ## Rays -/

namespace Tiling

/-- The stroke that a ray leaves; a ray that is refused, too short or impossible to hold inside the
rectangle leaves none. -/
def strokeOf? (t : Tiling α) (ray : Segment α) : Option (Stroke α) :=
  if ray.isFinite then
    match t.stroke ray with
    | .ok stroke? => stroke?
    | .error _ => none
  else none

/-- A ray cannot be held inside the rectangle. -/
def Blocks (t : Tiling α) (ray : Segment α) : Prop :=
  ray.isFinite = true ∧ ∃ abort, t.stroke ray = .error abort

theorem hold_eq_error {low high value : α} {abort : Abort}
    (aborted : hold low high value = .error abort) : abort = .emptyRange := by
  unfold hold at aborted
  split at aborted
  · cases aborted
  · cases aborted
    rfl

theorem le_of_hold {low high value held : α} (done : hold low high value = .ok held) :
    low ≤ high := by
  by_contra disordered
  rw [hold, if_neg disordered] at done
  cases done

theorem clamp_eq_error {t : Tiling α} {margin : α} {p : Point α} {abort : Abort}
    (aborted : t.clamp margin p = .error abort) : abort = .emptyRange := by
  unfold clamp at aborted
  cases across : hold t.bounds.minX (t.bounds.maxX - margin) p.x with
  | error first =>
      rw [across] at aborted
      cases aborted
      exact hold_eq_error across
  | ok x =>
      cases up : hold t.bounds.minY (t.bounds.maxY - margin) p.y with
      | error second =>
          rw [across, up] at aborted
          cases aborted
          exact hold_eq_error up
      | ok y =>
          rw [across, up] at aborted
          cases aborted

/-- There is one way only in which a ray aborts. -/
theorem stroke_eq_error {t : Tiling α} {ray : Segment α} {abort : Abort}
    (aborted : t.stroke ray = .error abort) : abort = .emptyRange := by
  unfold stroke clampEnds at aborted
  cases start : t.clamp (t.samplingStep / 2) ray.start with
  | error first =>
      simp only [start] at aborted
      cases aborted
      exact clamp_eq_error start
  | ok p =>
      cases stop : t.clamp (t.samplingStep / 2) ray.stop with
      | error second =>
          simp only [start, stop] at aborted
          cases aborted
          exact clamp_eq_error stop
      | ok q =>
          simp only [start, stop] at aborted
          cases aborted

/-- There is a place for every point in a rectangle that is wider and higher than the margin. -/
theorem exists_clamp {t : Tiling α} {margin : α}
    (across : t.bounds.minX ≤ t.bounds.maxX - margin)
    (up : t.bounds.minY ≤ t.bounds.maxY - margin) (p : Point α) :
    ∃ inside, t.clamp margin p = .ok inside := by
  obtain ⟨x, heldX⟩ : ∃ x, hold t.bounds.minX (t.bounds.maxX - margin) p.x = .ok x :=
    ⟨_, if_pos across⟩
  obtain ⟨y, heldY⟩ : ∃ y, hold t.bounds.minY (t.bounds.maxY - margin) p.y = .ok y :=
    ⟨_, if_pos up⟩
  refine ⟨⟨x, y⟩, ?_⟩
  rw [clamp, heldX, heldY]
  rfl

theorem clampEnds_of_clamp {t : Tiling α} {ray : Segment α} {start stop : Point α}
    (startInside : t.clamp (t.samplingStep / 2) ray.start = .ok start)
    (stopInside : t.clamp (t.samplingStep / 2) ray.stop = .ok stop) :
    t.clampEnds ray = .ok ⟨start, stop⟩ := by
  simp only [clampEnds, startInside, stopInside]
  rfl

theorem stroke_of_clampEnds {t : Tiling α} {ray inside : Segment α}
    (clamped : t.clampEnds ray = .ok inside) : t.stroke ray = .ok (t.strokeAlong inside) := by
  rw [stroke, clamped]
  rfl

/-- The limits between which the ends of rays are held are in order. -/
structure HasRoom (t : Tiling α) : Prop where
  across : t.bounds.minX ≤ t.bounds.maxX - t.samplingStep / 2
  up : t.bounds.minY ≤ t.bounds.maxY - t.samplingStep / 2

theorem HasRoom.exists_clampEnds {t : Tiling α} (room : t.HasRoom) (ray : Segment α) :
    ∃ inside, t.clampEnds ray = .ok inside := by
  obtain ⟨start, startInside⟩ := exists_clamp room.across room.up ray.start
  obtain ⟨stop, stopInside⟩ := exists_clamp room.across room.up ray.stop
  exact ⟨_, clampEnds_of_clamp startInside stopInside⟩

theorem HasRoom.not_blocks {t : Tiling α} (room : t.HasRoom) (ray : Segment α) :
    ¬ t.Blocks ray := by
  rintro ⟨_, abort, blocked⟩
  obtain ⟨_, clamped⟩ := room.exists_clampEnds ray
  rw [stroke_of_clampEnds clamped] at blocked
  cases blocked

/-- Without room no ray at all is let in. -/
theorem blocks_of_not_hasRoom {t : Tiling α} {ray : Segment α} (noRoom : ¬ t.HasRoom)
    (finite : ray.isFinite = true) : t.Blocks ray := by
  refine ⟨finite, ?_⟩
  cases drawn : t.stroke ray with
  | error abort => exact ⟨abort, rfl⟩
  | ok stroke? =>
      simp only [stroke, clampEnds, clamp, bind_eq_ok] at drawn
      obtain ⟨_, ⟨_, ⟨x, across, y, up, _⟩, _⟩, _⟩ := drawn
      exact absurd ⟨le_of_hold across, le_of_hold up⟩ noRoom

end Tiling

/-- How often the rays of one camera hit a cell. -/
def EvidencePlan.hits (plan : EvidencePlan α) (rays : List (String × Segment α)) (camera : String)
    (cell : Cell) : Nat :=
  (rays.map fun sighted =>
    if sighted.1 = camera then
      ((plan.tiling.strokeOf? sighted.2).map (·.hits plan.tiling cell)).getD 0
    else 0).sum

/-- One of the rays of a camera leaves a stroke. -/
def EvidencePlan.marks (plan : EvidencePlan α) (rays : List (String × Segment α))
    (camera : String) : Bool :=
  rays.any fun sighted => sighted.1 == camera && (plan.tiling.strokeOf? sighted.2).isSome

def EvidenceCommand.traces (rays : List (String × Segment α)) : List (EvidenceCommand α) :=
  rays.map fun sighted => .trace sighted.1 sighted.2

namespace EvidencePlan

variable {plan : EvidencePlan α} {rays others : List (String × Segment α)}

theorem hits_perm (permuted : rays.Perm others) (camera : String) (cell : Cell) :
    plan.hits rays camera cell = plan.hits others camera cell :=
  (permuted.map _).sum_eq

theorem marks_perm (permuted : rays.Perm others) (camera : String) :
    plan.marks rays camera = plan.marks others camera :=
  permuted.any_eq

end EvidencePlan

namespace Evidence

variable {plan : EvidencePlan α} {e middle after : Evidence plan}

/-- What a camera has gathered in a cell, nothing before its first stroke. -/
def level (e : Evidence plan) (camera : String) (cell : Cell)
    (inside : Raster.Holds plan.tiling.rows plan.tiling.columns cell) : α :=
  match e.layer? camera with
  | some layer => layer.value cell inside
  | Option.none => 0

theorem ext_level {other : Evidence plan}
    (cameras : ∀ camera, (e.layer? camera).isSome = (other.layer? camera).isSome)
    (levels : ∀ camera cell inside, e.level camera cell inside = other.level camera cell inside) :
    e = other := by
  have layers : e.layers = other.layers := by
    refine Directory.ext_get? fun camera => ?_
    have filed := cameras camera
    have same := levels camera
    unfold level at same
    change e.layer? camera = other.layer? camera
    cases first : e.layer? camera with
    | none =>
        rw [first] at filed
        exact (Option.not_isSome_iff_eq_none.1 (by rw [← filed]; simp)).symm
    | some layer =>
        rw [first] at filed same
        obtain ⟨second, found⟩ := Option.isSome_iff_exists.1 filed.symm
        rw [found] at same
        rw [found]
        exact congrArg some (Raster.ext_value same)
  obtain ⟨layers'⟩ := e
  exact congrArg Evidence.mk layers

/-- What rays add to evidence: which cameras have a raster afterwards, and how often the level of
each cell has grown by the increment. -/
structure Gathers (e after : Evidence plan) (rays : List (String × Segment α)) : Prop where
  cameras : ∀ camera,
    (after.layer? camera).isSome = ((e.layer? camera).isSome || plan.marks rays camera)
  levels : ∀ camera cell inside,
    after.level camera cell inside =
      (· + plan.increment)^[plan.hits rays camera cell] (e.level camera cell inside)

theorem Gathers.nil (e : Evidence plan) : e.Gathers e [] :=
  ⟨fun _ => by simp [EvidencePlan.marks], fun _ _ _ => rfl⟩

theorem Gathers.append {rays later : List (String × Segment α)} (first : e.Gathers middle rays)
    (second : middle.Gathers after later) : e.Gathers after (rays ++ later) := by
  refine ⟨fun camera => ?_, fun camera cell inside => ?_⟩
  · rw [second.cameras, first.cameras, Bool.or_assoc]
    simp only [EvidencePlan.marks, List.any_append]
  · have total : plan.hits (rays ++ later) camera cell =
        plan.hits later camera cell + plan.hits rays camera cell := by
      simp only [EvidencePlan.hits, List.map_append, List.sum_append]
      omega
    rw [second.levels, first.levels, total, Function.iterate_add_apply]

/-- Evidence after rays is determined by the rays, in any order. -/
theorem Gathers.eq_of_perm {rays others : List (String × Segment α)} {other : Evidence plan}
    (permuted : rays.Perm others) (first : e.Gathers after rays)
    (second : e.Gathers other others) : after = other := by
  refine ext_level (fun camera => ?_) fun camera cell inside => ?_
  · rw [first.cameras, second.cameras, EvidencePlan.marks_perm permuted]
  · rw [first.levels, second.levels, EvidencePlan.hits_perm permuted]

theorem layer?_addStroke_self (e : Evidence plan) (camera : String) (stroke : Stroke α) :
    (e.addStroke camera stroke).layer? camera =
      some (stroke.mark plan.tiling (· + plan.increment)
        ((e.layer? camera).getD (.fill _ _ 0))) :=
  Directory.get?_alter_self e.layers camera _

theorem layer?_addStroke_of_ne (e : Evidence plan) {name camera : String}
    (other : camera ≠ name) (stroke : Stroke α) :
    (e.addStroke name stroke).layer? camera = e.layer? camera :=
  Directory.get?_alter_of_ne e.layers other _

theorem layer?_decay (e : Evidence plan) (camera : String) :
    e.decay.layer? camera = (e.layer? camera).map (·.map (· * plan.retention)) :=
  Directory.get?_map _ _ _

theorem level_addStroke (e : Evidence plan) (name : String) (stroke : Stroke α) (camera : String)
    (cell : Cell) (inside : Raster.Holds plan.tiling.rows plan.tiling.columns cell) :
    (e.addStroke name stroke).level camera cell inside =
      (· + plan.increment)^[if name = camera then stroke.hits plan.tiling cell else 0]
        (e.level camera cell inside) := by
  by_cases own : name = camera
  · subst own
    rw [level, e.layer?_addStroke_self, if_pos rfl]
    simp only [Stroke.value_mark]
    unfold level
    cases e.layer? name with
    | none => simp only [Option.getD_none, Raster.value_fill]
    | some layer => rfl
  · rw [level, e.layer?_addStroke_of_ne (Ne.symm own), if_neg own]
    rfl

theorem isSome_layer_addStroke (e : Evidence plan) (name : String) (stroke : Stroke α)
    (camera : String) :
    ((e.addStroke name stroke).layer? camera).isSome =
      ((e.layer? camera).isSome || name == camera) := by
  by_cases own : name = camera
  · subst own
    rw [e.layer?_addStroke_self]
    simp
  · rw [e.layer?_addStroke_of_ne (Ne.symm own)]
    simp [own]

/-! ## One ray -/

theorem trace_of_infinite (e : Evidence plan) (name : String) {ray : Segment α}
    (infinite : ray.isFinite = false) : ∃ fault, e.trace name ray = .ok (.error fault) := by
  rcases requireFiniteEnds_cases ray .strokeStart .strokeStop with
    ⟨finite, _⟩ | ⟨_, refused | refused⟩
  · rw [infinite] at finite
    cases finite
  all_goals
    rw [trace, refused]
    exact ⟨_, rfl⟩

theorem trace_of_finite (e : Evidence plan) (name : String) {ray : Segment α}
    (finite : ray.isFinite = true) :
    e.trace name ray = (do .ok (.ok (← e.addRay name ray))) := by
  have passed := (requireFiniteEnds_eq_ok ray .strokeStart .strokeStop).2 finite
  rw [trace, passed]

theorem trace_ne_error (e : Evidence plan) (name : String) {ray : Segment α}
    (finite : ray.isFinite = true) (fault : Fault α) : e.trace name ray ≠ .ok (.error fault) := by
  rw [trace_of_finite e name finite]
  intro refused
  obtain ⟨_, _, impossible⟩ := bind_eq_ok.1 refused
  cases impossible

theorem perform_trace_of_infinite {name : String} {ray : Segment α}
    (infinite : ray.isFinite = false) : e.perform (.trace name ray) = .ok e := by
  obtain ⟨fault, refused⟩ := trace_of_infinite e name infinite
  rw [perform, refused]
  rfl

theorem perform_trace_of_finite {name : String} {ray : Segment α}
    (finite : ray.isFinite = true) : e.perform (.trace name ray) = e.addRay name ray := by
  rw [perform, trace_of_finite e name finite]
  cases e.addRay name ray <;> rfl

theorem performAll_trace_of_finite {name : String} {ray : Segment α}
    (finite : ray.isFinite = true) :
    e.performAll (EvidenceCommand.traces [(name, ray)]) = e.addRay name ray := by
  change (e.perform (.trace name ray) >>= _) = _
  rw [perform_trace_of_finite finite]
  cases e.addRay name ray <;> rfl

theorem perform_trace_of_blocked {name : String} {ray : Segment α}
    (blocked : plan.tiling.Blocks ray) : e.perform (.trace name ray) = .error .emptyRange := by
  obtain ⟨finite, abort, aborted⟩ := blocked
  have same := Tiling.stroke_eq_error aborted
  subst same
  rw [perform_trace_of_finite finite, addRay, aborted]
  rfl

theorem perform_trace_of_open (e : Evidence plan) (name : String) {ray : Segment α}
    (room : ¬ plan.tiling.Blocks ray) :
    ∃ after, e.perform (.trace name ray) = .ok after ∧ e.Gathers after [(name, ray)] := by
  cases finite : ray.isFinite with
  | false =>
      have none : plan.tiling.strokeOf? ray = Option.none := by simp [Tiling.strokeOf?, finite]
      refine ⟨e, perform_trace_of_infinite finite, fun camera => ?_, fun camera cell inside => ?_⟩
      · simp [EvidencePlan.marks, none]
      · simp [EvidencePlan.hits, none]
  | true =>
      cases drawn : plan.tiling.stroke ray with
      | error abort => exact absurd ⟨finite, abort, drawn⟩ room
      | ok stroke? =>
          have strokeEq : plan.tiling.strokeOf? ray = stroke? := by
            simp [Tiling.strokeOf?, finite, drawn]
          rw [perform_trace_of_finite finite, addRay, drawn]
          cases stroke? with
          | none =>
              refine ⟨e, rfl, fun camera => ?_, fun camera cell inside => ?_⟩
              · simp [EvidencePlan.marks, strokeEq]
              · simp [EvidencePlan.hits, strokeEq]
          | some stroke =>
              refine ⟨e.addStroke name stroke, rfl, fun camera => ?_,
                fun camera cell inside => ?_⟩
              · simp [EvidencePlan.marks, strokeEq, isSome_layer_addStroke]
              · simp [EvidencePlan.hits, strokeEq, level_addStroke]

/-! ## Many rays -/

/-- Rays without a decay all get through and leave their levels, or one of them aborts them all. -/
theorem performAll_traces (e : Evidence plan) (rays : List (String × Segment α)) :
    ((∀ sighted ∈ rays, ¬ plan.tiling.Blocks sighted.2) ∧
        ∃ after, e.performAll (EvidenceCommand.traces rays) = .ok after ∧ e.Gathers after rays) ∨
      (∃ sighted ∈ rays, plan.tiling.Blocks sighted.2) ∧
        e.performAll (EvidenceCommand.traces rays) = .error .emptyRange := by
  induction rays generalizing e with
  | nil =>
      refine .inl ⟨fun _ member => ?_, e, rfl, .nil e⟩
      cases member
  | cons sighted rest ih =>
      by_cases blocked : plan.tiling.Blocks sighted.2
      · refine .inr ⟨⟨sighted, List.mem_cons_self, blocked⟩, ?_⟩
        change (e.perform (.trace sighted.1 sighted.2) >>= _) = _
        rw [perform_trace_of_blocked blocked]
        rfl
      · obtain ⟨next, one, gathered⟩ := perform_trace_of_open e sighted.1 blocked
        have step : e.performAll (EvidenceCommand.traces (sighted :: rest)) =
            next.performAll (EvidenceCommand.traces rest) := by
          change (e.perform (.trace sighted.1 sighted.2) >>= _) = _
          rw [one]
          rfl
        rw [step]
        rcases ih next with ⟨room, after, done, later⟩ | ⟨⟨other, member, stuck⟩, aborted⟩
        · refine .inl ⟨fun other member => ?_, after, done, gathered.append later⟩
          rcases List.mem_cons.1 member with rfl | member
          · exact blocked
          · exact room other member
        · exact .inr ⟨⟨other, List.mem_cons_of_mem _ member, stuck⟩, aborted⟩

theorem gathers_of_performAll {rays : List (String × Segment α)}
    (done : e.performAll (EvidenceCommand.traces rays) = .ok after) : e.Gathers after rays := by
  rcases performAll_traces e rays with ⟨_, reached, same, gathered⟩ | ⟨_, aborted⟩
  · rw [done] at same
    cases same
    exact gathered
  · rw [done] at aborted
    cases aborted

theorem performAll_perm {rays others : List (String × Segment α)} (permuted : rays.Perm others)
    (e : Evidence plan) :
    e.performAll (EvidenceCommand.traces rays) = e.performAll (EvidenceCommand.traces others) := by
  rcases performAll_traces e rays with
    ⟨room, after, done, gathered⟩ | ⟨⟨sighted, member, blocked⟩, aborted⟩
  · rcases performAll_traces e others with
      ⟨_, other, doneToo, gatheredToo⟩ | ⟨⟨sighted, member, blocked⟩, _⟩
    · rw [done, doneToo, gathered.eq_of_perm permuted gatheredToo]
    · exact absurd blocked (room sighted (permuted.mem_iff.2 member))
  · rcases performAll_traces e others with ⟨room, _⟩ | ⟨_, abortedToo⟩
    · exact absurd blocked (room sighted (permuted.mem_iff.1 member))
    · rw [aborted, abortedToo]

end Evidence

end Sightline
