import Sightline.Proofs.Evidence.Strokes

/-!
# Evidence and lines of sight

What a ray marks lies on the ray as it is held inside the rectangle.  Holding it moves its ends on
each axis by itself, so a ray that leaves the rectangle is bent, and one that passes outside is laid
along the side; a marked cell is then off the ray, but not farther than the ends have been moved.
-/

set_option autoImplicit false

namespace Sightline

/-- Going the same share of the way between other ends leads no farther off than the ends are. -/
theorem Exact.abs_towards_sub_le {start stop heldStart heldStop share : ℝ}
    (part : share ∈ Set.Icc 0 1) :
    |heldStart + (heldStop - heldStart) * share - (start + (stop - start) * share)| ≤
      max |heldStart - start| |heldStop - stop| := by
  obtain ⟨least, most⟩ := part
  have rest : 0 ≤ 1 - share := sub_nonneg.2 most
  have split : heldStart + (heldStop - heldStart) * share - (start + (stop - start) * share) =
      (1 - share) * (heldStart - start) + share * (heldStop - stop) := by
    ring
  have first := le_max_left |heldStart - start| |heldStop - stop|
  have last := le_max_right |heldStart - start| |heldStop - stop|
  calc |heldStart + (heldStop - heldStart) * share - (start + (stop - start) * share)|
      = |(1 - share) * (heldStart - start) + share * (heldStop - stop)| := by rw [split]
    _ ≤ (1 - share) * |heldStart - start| + share * |heldStop - stop| := by
        refine (abs_add_le _ _).trans_eq ?_
        rw [abs_mul, abs_mul, abs_of_nonneg least, abs_of_nonneg rest]
    _ ≤ (1 - share) * max |heldStart - start| |heldStop - stop| +
          share * max |heldStart - start| |heldStop - stop| := by gcongr
    _ = max |heldStart - start| |heldStop - stop| := by ring

namespace Tiling

variable {t : Tiling ℝ} {ray : Segment ℝ} {cell : Cell} {share : ℝ}

/-- A ray has a point in a cell. -/
def Meets (t : Tiling ℝ) (ray : Segment ℝ) (cell : Cell) : Prop :=
  ∃ share ∈ Set.Icc (0 : ℝ) 1, t.Covers cell (ray.pointAt share)

/-- How far the ends of a ray are moved on each axis, whichever of them is moved farther. -/
noncomputable def shift (t : Tiling ℝ) (ray : Segment ℝ) : Point ℝ :=
  ⟨max |(t.held ray.start).x - ray.start.x| |(t.held ray.stop).x - ray.stop.x|,
    max |(t.held ray.start).y - ray.start.y| |(t.held ray.stop).y - ray.stop.y|⟩

/-- A share of the way at which a ray, held inside the rectangle, is in a cell, and off the ray itself
by no more than its ends. -/
structure LiesOn (t : Tiling ℝ) (ray : Segment ℝ) (cell : Cell) (share : ℝ) : Prop where
  part : share ∈ Set.Icc (0 : ℝ) 1
  covers : t.Covers cell ((t.heldRay ray).pointAt share)
  across : |((t.heldRay ray).pointAt share).x - (ray.pointAt share).x| ≤ (t.shift ray).x
  up : |((t.heldRay ray).pointAt share).y - (ray.pointAt share).y| ≤ (t.shift ray).y

theorem liesOn_of_mem (addressable : t.Addressable) (part : share ∈ Set.Icc (0 : ℝ) 1) :
    t.LiesOn ray (t.cellOf ((t.heldRay ray).pointAt share)) share :=
  ⟨part, (t.keeps_pointAt ray part).contains.covers_cellOf addressable,
    Exact.abs_towards_sub_le part, Exact.abs_towards_sub_le part⟩

/-- Held between two of its own points a ray does not leave itself. -/
theorem LiesOn.meets (lies : t.LiesOn ray cell share)
    (start : ∃ a ∈ Set.Icc (0 : ℝ) 1, t.held ray.start = ray.pointAt a)
    (stop : ∃ b ∈ Set.Icc (0 : ℝ) 1, t.held ray.stop = ray.pointAt b) : t.Meets ray cell := by
  obtain ⟨a, first, startOn⟩ := start
  obtain ⟨b, last, stopOn⟩ := stop
  refine ⟨a + (b - a) * share, Exact.mem_towards first last lies.part, ?_⟩
  have same : (t.heldRay ray).pointAt share = ray.pointAt (a + (b - a) * share) := by
    have axis : ∀ start way : ℝ, start + way * a + (start + way * b - (start + way * a)) * share =
        start + way * (a + (b - a) * share) := by
      intro start way
      ring
    rw [heldRay, startOn, stopOn]
    exact congrArg₂ Point.mk (axis _ _) (axis _ _)
  rw [← same]
  exact lies.covers

end Tiling

namespace Evidence

variable {plan : EvidencePlan ℝ} {e : Evidence plan} {name camera : String} {stroke : Stroke ℝ}
  {cell : Cell} {inside : Raster.Holds plan.tiling.rows plan.tiling.columns cell} {ray : Segment ℝ}

/-! ## Changed cells -/

theorem sample_of_level_ne
    (changed : (e.addStroke name stroke).level camera cell inside ≠ e.level camera cell inside) :
    camera = name ∧ ∃ p ∈ stroke.samples, plan.tiling.cellOf p = cell := by
  by_cases own : camera = name
  · subst own
    refine ⟨rfl, ?_⟩
    by_contra none
    exact changed ((e.raises_addStroke camera stroke).missed cell inside fun p member here =>
      none ⟨p, member, here⟩)
  · rw [level_addStroke, if_neg (Ne.symm own)] at changed
    exact absurd rfl changed

theorem level_ne_of_sample {p : Point ℝ} (increment : plan.increment ≠ 0)
    (member : p ∈ stroke.samples)
    (inside : Raster.Holds plan.tiling.rows plan.tiling.columns (plan.tiling.cellOf p)) :
    (e.addStroke camera stroke).level camera (plan.tiling.cellOf p) inside ≠
      e.level camera (plan.tiling.cellOf p) inside := by
  have hit : 0 < stroke.samples.countP fun q => plan.tiling.cellOf q = plan.tiling.cellOf p :=
    List.countP_pos_iff.2 ⟨p, member, decide_eq_true rfl⟩
  rw [(e.raises_addStroke camera stroke).hit, Ne, add_eq_left]
  exact mul_ne_zero increment (Nat.cast_ne_zero.2 hit.ne')

/-- A ray that is long enough once it is held leaves evidence in some cell. -/
theorem exists_level_ne (e : Evidence plan) (camera : String) (increment : plan.increment ≠ 0)
    (long : plan.tiling.samplingStep ≤ plan.tiling.heldLength ray) :
    ∃ after cell inside, e.trace camera ray = .ok (.ok after) ∧
      after.level camera cell inside ≠ e.level camera cell inside := by
  obtain ⟨stroke, drawn, samples⟩ := Tiling.stroke_of_long long
  -- The first sample is in the cell of the held start, wherever the ray goes from there.
  have first : 0 < plan.tiling.sampleCount ray := Nat.pos_of_ne_zero (Tiling.sampleCount_ne_zero long)
  have start := plan.tiling.keeps_pointAt ray (Tiling.sample_mem_Icc long first.le)
  have member : (plan.tiling.heldRay ray).pointAt ((0 : ℕ) * plan.tiling.spacing ray) ∈
      stroke.samples := samples ▸ List.mem_map.2 ⟨0, List.mem_range.2 first, rfl⟩
  exact ⟨e.addStroke camera stroke, _, start.contains.holds_cellOf, trace_eq e camera drawn,
    level_ne_of_sample increment member _⟩

theorem liesOn_of_level_ne {after : Evidence plan} (addressable : plan.tiling.Addressable)
    (traced : e.trace name ray = .ok (.ok after))
    (changed : after.level camera cell inside ≠ e.level camera cell inside) :
    camera = name ∧ ∃ share, plan.tiling.LiesOn ray cell share := by
  rcases lt_or_ge (plan.tiling.heldLength ray) plan.tiling.samplingStep with short | long
  · rw [trace_eq e name (Tiling.stroke_of_short short)] at traced
    cases traced
    exact absurd rfl changed
  · obtain ⟨stroke, drawn, samples⟩ := Tiling.stroke_of_long long
    rw [trace_eq e name drawn] at traced
    cases traced
    obtain ⟨own, p, member, rfl⟩ := sample_of_level_ne changed
    rw [samples] at member
    obtain ⟨i, counted, rfl⟩ := List.mem_map.1 member
    exact ⟨own, _, Tiling.liesOn_of_mem addressable
      (Tiling.sample_mem_Icc long (List.mem_range.1 counted).le)⟩

/-- In exact arithmetic every cell that a ray raises has a point of the ray as it is held inside the
rectangle, no farther off the ray itself than its ends are moved; it has a point of the ray itself if
the held ends are points of it.  A ray leaves nothing exactly if its held ends are less than a step
apart. -/
theorem evidence_lies_on_held_ray (addressable : plan.tiling.Addressable) (e : Evidence plan)
    (camera : String) (ray : Segment ℝ) :
    ∃ after, e.trace camera ray = .ok (.ok after) ∧
      plan.tiling.clampEnds ray = .ok (plan.tiling.heldRay ray) ∧
      (∀ other cell inside, after.level other cell inside ≠ e.level other cell inside →
        other = camera ∧ (∃ share, plan.tiling.LiesOn ray cell share) ∧
          ((∃ a ∈ Set.Icc (0 : ℝ) 1, plan.tiling.held ray.start = ray.pointAt a) →
            (∃ b ∈ Set.Icc (0 : ℝ) 1, plan.tiling.held ray.stop = ray.pointAt b) →
              plan.tiling.Meets ray cell)) ∧
      (plan.increment ≠ 0 → (after = e ↔ plan.tiling.heldLength ray < plan.tiling.samplingStep)) := by
  have clamped := plan.tiling.clampEnds_eq ray
  obtain ⟨after, traced⟩ : ∃ after, e.trace camera ray = .ok (.ok after) :=
    ⟨_, trace_eq e camera (Tiling.stroke_of_clampEnds clamped)⟩
  refine ⟨after, traced, clamped, fun other cell inside changed => ?_,
    fun increment => ⟨?_, fun short => ?_⟩⟩
  · obtain ⟨own, share, lies⟩ := liesOn_of_level_ne addressable traced changed
    exact ⟨own, ⟨share, lies⟩, lies.meets⟩
  · rintro rfl
    by_contra long
    obtain ⟨_, _, _, done, changed⟩ := exists_level_ne after camera increment (not_lt.1 long)
    rw [traced] at done
    cases done
    exact changed rfl
  · rw [trace_eq e camera (Tiling.stroke_of_short short)] at traced
    cases traced
    rfl

/-- A ray inside the first of two cells, and what it marks. -/
theorem exactPair_marks_meet_ray : exactPair.tiling.Addressable ∧
    ∃ after cell inside, (none : Evidence exactPair).trace "a" (upright (3 / 4)) = .ok (.ok after) ∧
      after.level "a" cell inside ≠ (none : Evidence exactPair).level "a" cell inside ∧
      exactPair.tiling.Meets (upright (3 / 4)) cell := by
  have addressable := Tiling.exactPair_addressable
  have increment : exactPair.increment ≠ 0 := by norm_num [exactPair]
  have long : exactPair.tiling.samplingStep ≤ exactPair.tiling.heldLength (upright (3 / 4)) := by
    rw [heldLength_upright (3 / 4) (by norm_num), exactPair_step]
    norm_num [abs_of_pos]
  have held : exactPair.tiling.heldRay (upright (3 / 4)) = upright (3 / 4) :=
    exactPair_heldRay_upright (by norm_num)
  obtain ⟨after, cell, inside, traced, changed⟩ :=
    exists_level_ne (none : Evidence exactPair) "a" increment long
  obtain ⟨_, same, _, marks, _⟩ := evidence_lies_on_held_ray addressable none "a" (upright (3 / 4))
  rw [traced] at same
  cases same
  obtain ⟨_, _, meets⟩ := marks "a" cell inside changed
  refine ⟨addressable, after, cell, inside, traced, changed, meets ⟨0, ?_, ?_⟩ ⟨1, ?_, ?_⟩⟩
  · exact ⟨le_refl 0, zero_le_one⟩
  · rw [Segment.pointAt_zero]
    exact congrArg Segment.start held
  · exact ⟨zero_le_one, le_refl 1⟩
  · rw [Segment.pointAt_one]
    exact congrArg Segment.stop held

/-! ## A ray beside the rectangle -/

/-- A metre to the right of the two cells. -/
noncomputable def outsideRay : Segment ℝ := ⟨⟨3, 1 / 4⟩, ⟨3, 3 / 4⟩⟩

/-- The ray does not come near the rectangle, and a cell of it is marked all the same. -/
theorem outsideRay_leaves_evidence :
    (∀ share, exactPair.tiling.bounds.maxX < (outsideRay.pointAt share).x) ∧
      ∃ after cell inside, (none : Evidence exactPair).trace "a" outsideRay = .ok (.ok after) ∧
        after.level "a" cell inside ≠ (none : Evidence exactPair).level "a" cell inside ∧
        ¬ exactPair.tiling.Meets outsideRay cell := by
  have beside : ∀ share, exactPair.tiling.bounds.maxX < (outsideRay.pointAt share).x := by
    intro share
    change (2 : ℝ) < 3 + (3 - 3) * share
    linarith
  have increment : exactPair.increment ≠ 0 := by norm_num [exactPair]
  have long : exactPair.tiling.samplingStep ≤ exactPair.tiling.heldLength outsideRay := by
    rw [Tiling.heldLength, outsideRay, exactPair_heldRay (by norm_num) (by norm_num) (by norm_num),
      norm_upright, exactPair_step]
    norm_num [abs_of_pos]
  obtain ⟨after, cell, inside, traced, changed⟩ :=
    exists_level_ne (none : Evidence exactPair) "a" increment long
  refine ⟨beside, after, cell, inside, traced, changed, ?_⟩
  rintro ⟨share, _, covers⟩
  exact lt_asymm (beside share) (covers.contains inside).right

end Evidence

end Sightline
