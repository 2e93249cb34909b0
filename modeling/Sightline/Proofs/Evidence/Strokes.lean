import Sightline.Proofs.Plane.Centres

/-!
# Rays in cells

A ray is held inside the rectangle and sampled once for every step of its length.  In exact
arithmetic every sample falls into a cell, the first into that of the start, each into the cell of the
one before or beside it, and the last into the cell of the stop or beside it.  A cell is raised once for
each sample that falls into it.
-/

set_option autoImplicit false

namespace Sightline

/-! ## Samples -/

/-- Going on from sample to sample is going the same way at once. -/
theorem Stroke.samplesFrom_eq_map (step : Point ℝ) (count : ℕ) (p : Point ℝ) :
    samplesFrom step count p = (List.range count).map fun i : ℕ => p + step.scale i := by
  induction count generalizing p with
  | zero => rfl
  | succ count ih =>
      -- The rest starts one step on, where each share of the way is one less.
      have axis : ∀ start way : ℝ, start = start + way * (0 : ℕ) := by
        intro start way
        simp
      have next : ∀ (start way : ℝ) (i : ℕ), start + way + way * i = start + way * (i + 1 : ℕ) := by
        intro start way i
        push_cast
        ring
      rw [samplesFrom, ih, List.range_succ_eq_map, List.map_cons, List.map_map]
      refine congrArg₂ List.cons ?_ (List.map_congr_left fun i _ => ?_)
      · exact congrArg₂ Point.mk (axis p.x step.x) (axis p.y step.y)
      · exact congrArg₂ Point.mk (next p.x step.x i) (next p.y step.y i)

namespace Tiling

variable {t : Tiling ℝ} {ray : Segment ℝ}

noncomputable def sampleCount (t : Tiling ℝ) (ray : Segment ℝ) : ℕ :=
  Scalar.floorCount (t.heldLength ray / t.samplingStep)

/-- The share of a ray that lies between two samples. -/
noncomputable def spacing (t : Tiling ℝ) (ray : Segment ℝ) : ℝ := t.samplingStep / t.heldLength ray

theorem stroke_of_short (short : t.heldLength ray < t.samplingStep) : t.stroke ray = .ok none := by
  have below : (t.heldRay ray).along.norm < t.samplingStep := short
  rw [stroke_of_clampEnds (t.clampEnds_eq ray), strokeAlong, if_pos below]

theorem stroke_of_long (long : t.samplingStep ≤ t.heldLength ray) :
    ∃ stroke, t.stroke ray = .ok (some stroke) ∧ stroke.samples =
      (List.range (t.sampleCount ray)).map fun i : ℕ => (t.heldRay ray).pointAt (i * t.spacing ray) := by
  have notShort : ¬ (t.heldRay ray).along.norm < t.samplingStep := not_lt.2 long
  rw [stroke_of_clampEnds (t.clampEnds_eq ray), strokeAlong, if_neg notShort]
  refine ⟨_, rfl, ?_⟩
  rw [Stroke.samples, Stroke.samplesFrom_eq_map]
  refine List.map_congr_left fun i _ => ?_
  have axis : ∀ start way : ℝ,
      start + way * t.spacing ray * i = start + way * (i * t.spacing ray) := by
    intro start way
    ring
  exact congrArg₂ Point.mk (axis _ _) (axis _ _)

/-! ## Shares -/

section Long

variable (long : t.samplingStep ≤ t.heldLength ray)

include long

theorem heldLength_pos : 0 < t.heldLength ray := t.samplingStep_pos.trans_le long

theorem heldLength_mul_spacing : t.heldLength ray * t.spacing ray = t.samplingStep :=
  mul_div_cancel₀ _ (heldLength_pos long).ne'

theorem spacing_pos : 0 < t.spacing ray := div_pos t.samplingStep_pos (heldLength_pos long)

theorem sampleCount_ne_zero : t.sampleCount ray ≠ 0 := by
  have one : 1 ≤ ⌊t.heldLength ray / t.samplingStep⌋₊ :=
    Nat.le_floor (by exact_mod_cast (one_le_div t.samplingStep_pos).2 long)
  rw [sampleCount, Exact.floorCount_eq]
  omega

theorem sample_mem_Icc {i : ℕ} (counted : i ≤ t.sampleCount ray) :
    i * t.spacing ray ∈ Set.Icc 0 1 := by
  have length := heldLength_pos long
  have steps : (i : ℝ) ≤ t.heldLength ray / t.samplingStep := by
    apply le_trans _ (Nat.floor_le (div_pos length t.samplingStep_pos).le)
    exact_mod_cast counted.trans (min_le_left _ _)
  refine ⟨mul_nonneg (Nat.cast_nonneg i) (spacing_pos long).le, ?_⟩
  rw [spacing, mul_div_assoc', div_le_one length]
  exact (le_div_iff₀ t.samplingStep_pos).1 steps

theorem touches_next {i : ℕ} (counted : i + 1 ≤ t.sampleCount ray) :
    (t.cellOf ((t.heldRay ray).pointAt (i * t.spacing ray))).Touches
      (t.cellOf ((t.heldRay ray).pointAt ((i + 1 : ℕ) * t.spacing ray))) := by
  have positive := t.samplingStep_pos
  have apart : |i * t.spacing ray - (i + 1 : ℕ) * t.spacing ray| = t.spacing ray := by
    rw [abs_sub_comm, ← sub_mul, Nat.cast_succ, add_sub_cancel_left, one_mul,
      abs_of_pos (spacing_pos long)]
  apply t.touches_pointAt ray (sample_mem_Icc long (Nat.le_of_succ_le counted))
    (sample_mem_Icc long counted)
  rw [apart, heldLength_mul_spacing long]
  linarith

/-- From the last sample it is less than two steps to the end. -/
theorem touches_stop {i : ℕ} (small : t.heldLength ray / t.samplingStep < 2 ^ 64)
    (last : t.sampleCount ray = i + 1) :
    (t.cellOf ((t.heldRay ray).pointAt (i * t.spacing ray))).Touches
      (t.cellOf (t.held ray.stop)) := by
  have positive := t.samplingStep_pos
  have part := sample_mem_Icc long (i := i) (by omega)
  have stop : (t.heldRay ray).pointAt 1 = t.held ray.stop := (t.heldRay ray).pointAt_one
  have rest : t.heldLength ray < (i + 2) * t.samplingStep := by
    have above := Nat.lt_floor_add_one (t.heldLength ray / t.samplingStep)
    rw [sampleCount, Exact.floorCount_of_small small] at last
    rw [last, div_lt_iff₀ positive] at above
    push_cast at above
    linarith
  rw [← stop]
  apply t.touches_pointAt ray part ⟨zero_le_one, le_refl 1⟩
  rw [abs_sub_comm, abs_of_nonneg (sub_nonneg.2 part.2), mul_sub, mul_one, mul_left_comm,
    heldLength_mul_spacing long]
  linarith

end Long

/-- What the samples of a ray are: as many as there are whole steps in its length, all in the rectangle
and in cells of it, from the cell of the start on without a gap up to the cell of the stop. -/
structure Draws (t : Tiling ℝ) (ray : Segment ℝ) (points : List (Point ℝ)) : Prop where
  count : points.length = ⌊t.heldLength ray / t.samplingStep⌋₊
  kept : ∀ p ∈ points, t.Keeps p ∧ Raster.Holds t.rows t.columns (t.cellOf p)
  first : points.head?.map t.cellOf = some (t.cellOf (t.held ray.start))
  connected : (points.map t.cellOf).IsChain Cell.Touches
  last : ∃ p ∈ points.getLast?, (t.cellOf p).Touches (t.cellOf (t.held ray.stop))

theorem draws_of_long (long : t.samplingStep ≤ t.heldLength ray)
    (small : t.heldLength ray / t.samplingStep < 2 ^ 64) :
    ∃ stroke, t.stroke ray = .ok (some stroke) ∧ t.Draws ray stroke.samples := by
  obtain ⟨stroke, drawn, samples⟩ := stroke_of_long long
  have counted : t.sampleCount ray = ⌊t.heldLength ray / t.samplingStep⌋₊ :=
    Exact.floorCount_of_small small
  obtain ⟨count, whole⟩ := Nat.exists_eq_succ_of_ne_zero (sampleCount_ne_zero long)
  refine ⟨stroke, drawn, ?_⟩
  rw [samples, whole]
  refine ⟨?_, ?_, ?_, ?_, ?_⟩
  · rw [List.length_map, List.length_range, ← counted, whole]
  · intro p member
    obtain ⟨i, inside, rfl⟩ := List.mem_map.1 member
    have part := sample_mem_Icc long (whole ▸ (List.mem_range.1 inside).le)
    have keeps := t.keeps_pointAt ray part
    exact ⟨keeps, keeps.contains.holds_cellOf⟩
  · rw [List.range_succ_eq_map, List.map_cons, List.head?_cons, Option.map_some, Nat.cast_zero,
      zero_mul, Segment.pointAt_zero]
    rfl
  · rw [List.map_map, List.isChain_map, List.isChain_range_succ]
    intro i inside
    exact touches_next long (by omega)
  · rw [List.range_succ, List.map_append, List.getLast?_append]
    exact ⟨_, rfl, touches_stop long small whole⟩

end Tiling

/-! ## Traces -/

namespace Evidence

variable {plan : EvidencePlan ℝ}

theorem trace_eq (e : Evidence plan) (camera : String) {ray : Segment ℝ} {stroke? : Option (Stroke ℝ)}
    (drawn : plan.tiling.stroke ray = .ok stroke?) :
    e.trace camera ray = .ok (.ok (stroke?.elim e (e.addStroke camera))) := by
  rw [trace_of_finite e camera rfl, addRay, drawn]
  cases stroke? with
  | none => rfl
  | some stroke => rfl

/-- What samples do to the evidence of a camera: a cell is raised by the increment as often as one of
them falls into it, and stays as it is where none does. -/
structure Raises (e after : Evidence plan) (camera : String) (points : List (Point ℝ)) : Prop where
  hit : ∀ cell inside, after.level camera cell inside =
    e.level camera cell inside + plan.increment * points.countP fun p => plan.tiling.cellOf p = cell
  missed : ∀ cell inside, (∀ p ∈ points, plan.tiling.cellOf p ≠ cell) →
    after.level camera cell inside = e.level camera cell inside

theorem raises_addStroke (e : Evidence plan) (camera : String) (stroke : Stroke ℝ) :
    e.Raises (e.addStroke camera stroke) camera stroke.samples := by
  have hit : ∀ cell inside, (e.addStroke camera stroke).level camera cell inside =
      e.level camera cell inside + plan.increment * stroke.hits plan.tiling cell := by
    intro cell inside
    rw [level_addStroke, if_pos rfl, iterate_add]
  refine ⟨hit, fun cell inside missed => ?_⟩
  have none : stroke.hits plan.tiling cell = 0 :=
    List.countP_eq_zero.2 fun p member here => missed p member (of_decide_eq_true here)
  rw [hit, none, Nat.cast_zero, mul_zero, add_zero]

/-- In exact arithmetic a ray that is shorter than a step, once it is held inside the rectangle,
changes nothing.  Any other ray that is not too long to be counted raises the layer of its camera by the
increment for each of its samples, which go from cell to cell without a gap, and leaves all other layers
alone. -/
theorem trace_skips_nothing (e : Evidence plan) (camera : String) (ray : Segment ℝ) :
    plan.tiling.clampEnds ray = .ok (plan.tiling.heldRay ray) ∧
      (plan.tiling.heldLength ray < plan.tiling.samplingStep → e.trace camera ray = .ok (.ok e)) ∧
      (plan.tiling.samplingStep ≤ plan.tiling.heldLength ray →
        plan.tiling.heldLength ray / plan.tiling.samplingStep < 2 ^ 64 →
          ∃ after stroke, e.trace camera ray = .ok (.ok after) ∧
            plan.tiling.stroke ray = .ok (some stroke) ∧ plan.tiling.Draws ray stroke.samples ∧
            after.layer? camera = some (stroke.samples.foldl
              (fun layer p => layer.change (plan.tiling.cellOf p) (· + plan.increment))
              ((e.layer? camera).getD (.fill _ _ 0))) ∧
            e.Raises after camera stroke.samples ∧
            ∀ other, other ≠ camera → after.layer? other = e.layer? other) := by
  refine ⟨plan.tiling.clampEnds_eq ray, fun short => ?_, fun long small => ?_⟩
  · rw [trace_eq e camera (Tiling.stroke_of_short short)]
    rfl
  · obtain ⟨stroke, drawn, draws⟩ := Tiling.draws_of_long long small
    refine ⟨e.addStroke camera stroke, stroke, trace_eq e camera drawn, drawn, draws, ?_,
      e.raises_addStroke camera stroke, ?_⟩
    · rw [layer?_addStroke_self, Stroke.mark_eq_foldl]
      exact congrArg (fun start =>
        some (stroke.samples.foldl _ ((e.layer? camera).getD (.fill _ _ start)))) Exact.zero_eq
    · intro other different
      exact e.layer?_addStroke_of_ne different stroke

/-! ### Rays along a column -/

/-- Two cells of exact size one hold a ray that goes straight up where it is, short of their sides. -/
theorem exactPair_heldRay {x low high : ℝ} (right : 0 ≤ x) (first : low ∈ Set.Icc 0 (7 / 8))
    (second : high ∈ Set.Icc 0 (7 / 8)) : exactPair.tiling.heldRay ⟨⟨x, low⟩, ⟨x, high⟩⟩ =
      ⟨⟨min x (15 / 8), low⟩, ⟨min x (15 / 8), high⟩⟩ := by
  have held : ∀ y ∈ Set.Icc (0 : ℝ) (7 / 8), exactPair.tiling.held ⟨x, y⟩ = ⟨min x (15 / 8), y⟩ := by
    rintro y ⟨bottom, top⟩
    have across : exactPair.tiling.bounds.maxX - exactPair.tiling.samplingStep / 2 = 15 / 8 := by
      rw [exactPair_step]
      norm_num [exactPair]
    have up : exactPair.tiling.bounds.maxY - exactPair.tiling.samplingStep / 2 = 7 / 8 := by
      rw [exactPair_step]
      norm_num [exactPair]
    have wide : (0 : ℝ) ≤ 15 / 8 := by norm_num
    rw [Tiling.held, across, up, min_eq_left top]
    exact congrArg₂ Point.mk (max_eq_right (le_min right wide)) (max_eq_right bottom)
  exact congrArg₂ Segment.mk (held low first) (held high second)

theorem norm_upright (x low high : ℝ) :
    (⟨⟨x, low⟩, ⟨x, high⟩⟩ : Segment ℝ).along.norm = |high - low| := by
  have square : (⟨⟨x, low⟩, ⟨x, high⟩⟩ : Segment ℝ).along.normSq = (high - low) * (high - low) := by
    change (x - x) * (x - x) + (high - low) * (high - low) = _
    ring
  rw [Point.norm, square]
  exact Real.sqrt_mul_self_eq_abs _

/-- Straight up in the middle of the first cell, from its lower quarter on. -/
noncomputable def upright (high : ℝ) : Segment ℝ := ⟨⟨1 / 2, 1 / 4⟩, ⟨1 / 2, high⟩⟩

theorem exactPair_heldRay_upright {high : ℝ} (second : high ∈ Set.Icc 0 (7 / 8)) :
    exactPair.tiling.heldRay (upright high) = upright high := by
  have middle : min (1 / 2 : ℝ) (15 / 8) = 1 / 2 := min_eq_left (by norm_num)
  rw [upright, exactPair_heldRay (by norm_num) (by norm_num) second, middle]

theorem heldLength_upright (high : ℝ) (second : high ∈ Set.Icc 0 (7 / 8)) :
    exactPair.tiling.heldLength (upright high) = |high - 1 / 4| := by
  rw [Tiling.heldLength, exactPair_heldRay_upright second, upright, norm_upright]

theorem exactPair_cellOf {p : Point ℝ} (inside : exactPair.tiling.Contains p) (first : p.x < 1) :
    exactPair.tiling.cellOf p = ⟨0, 0⟩ := by
  have left : (0 : ℝ) ≤ p.x := inside.left
  have bottom : (0 : ℝ) ≤ p.y := inside.bottom
  have top : p.y < (1 : ℝ) := inside.top
  have covers : exactPair.tiling.Covers ⟨0, 0⟩ p := by
    constructor
    all_goals
      rw [exactPair_cellSize]
      simp only [exactPair, Nat.cast_zero]
      linarith
  exact covers.cellOf_eq Tiling.exactPair_addressable (by decide)

/-- It does not leave the first cell. -/
theorem upright_samples {high : ℝ} (second : high ∈ Set.Icc 0 (7 / 8)) {stroke : Stroke ℝ}
    (long : exactPair.tiling.samplingStep ≤ exactPair.tiling.heldLength (upright high))
    (drawn : exactPair.tiling.stroke (upright high) = .ok (some stroke)) :
    ∀ p ∈ stroke.samples, exactPair.tiling.cellOf p = ⟨0, 0⟩ := by
  obtain ⟨_, same, samples⟩ := Tiling.stroke_of_long long
  rw [drawn] at same
  cases same
  intro p member
  rw [samples] at member
  obtain ⟨i, counted, rfl⟩ := List.mem_map.1 member
  have keeps := exactPair.tiling.keeps_pointAt (upright high)
    (Tiling.sample_mem_Icc long (List.mem_range.1 counted).le)
  apply exactPair_cellOf keeps.contains
  rw [exactPair_heldRay_upright second]
  change (1 / 2 + (1 / 2 - 1 / 2) * _ : ℝ) < 1
  norm_num

/-- Half a metre makes two samples in one cell and leaves the other alone, an eighth of a metre none. -/
theorem exactPair_trace_upright :
    (∃ after points, (none : Evidence exactPair).trace "a" (upright (3 / 4)) = .ok (.ok after) ∧
        (after.layer? "a").isSome = true ∧ exactPair.tiling.Draws (upright (3 / 4)) points ∧
        points.length = 2 ∧ after.level "a" ⟨0, 0⟩ (by decide) = 1 / 20 ∧
        after.level "a" ⟨0, 1⟩ (by decide) = 0) ∧
      (none : Evidence exactPair).trace "a" (upright (3 / 8)) = .ok (.ok none) := by
  have half := heldLength_upright (3 / 4) (by norm_num)
  have eighth := heldLength_upright (3 / 8) (by norm_num)
  obtain ⟨_, _, traces⟩ := (none : Evidence exactPair).trace_skips_nothing "a" (upright (3 / 4))
  obtain ⟨_, unchanged, _⟩ := (none : Evidence exactPair).trace_skips_nothing "a" (upright (3 / 8))
  rw [half, exactPair_step] at traces
  rw [eighth, exactPair_step] at unchanged
  obtain ⟨after, stroke, traced, drawn, draws, layer, raises, _⟩ :=
    traces (by norm_num [abs_of_pos]) (by norm_num [abs_of_pos])
  have first := upright_samples (by norm_num) (by rw [half, exactPair_step]; norm_num [abs_of_pos]) drawn
  have two : stroke.samples.length = 2 := by
    rw [draws.count, half, exactPair_step]
    norm_num [abs_of_pos]
  refine ⟨⟨after, stroke.samples, traced, ?_, draws, two, ?_, ?_⟩,
    unchanged (by norm_num [abs_of_pos])⟩
  · rw [layer]
    rfl
  · rw [raises.hit, List.countP_eq_length.2 fun p member => decide_eq_true (first p member), two]
    norm_num [exactPair, level_none]
  · rw [raises.missed _ _ fun p member => by rw [first p member]; decide]
    exact level_none _ _ _

end Evidence

end Sightline
