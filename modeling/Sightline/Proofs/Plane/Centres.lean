import Sightline.Proofs.Plane.Tiles

/-!
# Centres of cells

In exact arithmetic the centre of a cell falls into that cell, and no point of the cell is farther from
it, on either axis, than half a cell.  So where the peak of a surface is seen differs from where its
evidence was left by half a cell at most.  Clamping brings every point into the rectangle, once and for
all, and does not touch what is there already.
-/

set_option autoImplicit false

namespace Sightline

open Evidence (exactPair)

theorem Exact.floorCount_of_mem {count : ℕ} {a : ℝ} (small : count < 2 ^ 64)
    (inside : a ∈ Set.Ico (count : ℝ) (count + 1)) : Scalar.floorCount a = count := by
  obtain ⟨least, most⟩ := inside
  have nonneg : 0 ≤ a := (Nat.cast_nonneg count).trans least
  have floor : ⌊a⌋₊ = count := (Nat.floor_eq_iff nonneg).2 ⟨least, most⟩
  rw [floorCount_eq, floor]
  exact min_eq_left (by omega)

namespace Tiling

variable {t : Tiling ℝ} {cell : Cell} {p : Point ℝ} {margin : ℝ}

/-! ## There and back -/

/-- Rectangles of cells do not overlap. -/
theorem Covers.cellOf_eq (covers : t.Covers cell p) (addressable : t.Addressable)
    (inside : Raster.Holds t.rows t.columns cell) : t.cellOf p = cell := by
  obtain ⟨width, height⟩ := t.cellSize_pos
  obtain ⟨columns, rows⟩ := addressable
  obtain ⟨row, column⟩ := inside
  have across : (p.x - t.bounds.minX) / t.cellSize.x ∈ Set.Ico (cell.column : ℝ) (cell.column + 1) := by
    constructor
    · rw [le_div_iff₀' width]
      linarith [covers.left]
    · rw [div_lt_iff₀' width]
      linarith [covers.right]
  have up : (p.y - t.bounds.minY) / t.cellSize.y ∈ Set.Ico (cell.row : ℝ) (cell.row + 1) := by
    constructor
    · rw [le_div_iff₀' height]
      linarith [covers.bottom]
    · rw [div_lt_iff₀' height]
      linarith [covers.top]
  rw [Tiling.cellOf_eq, Exact.floorCount_of_mem (row.trans rows) up,
    Exact.floorCount_of_mem (column.trans columns) across]

theorem centerOf_eq (t : Tiling ℝ) (cell : Cell) : t.centerOf cell =
    ⟨t.bounds.minX + t.cellSize.x * (cell.column + 1 / 2),
      t.bounds.minY + t.cellSize.y * (cell.row + 1 / 2)⟩ := by
  have half : (0.5 : ℝ) = 1 / 2 := by norm_num
  rw [← half]
  rfl

theorem covers_centerOf (t : Tiling ℝ) (cell : Cell) : t.Covers cell (t.centerOf cell) := by
  obtain ⟨width, height⟩ := t.cellSize_pos
  rw [centerOf_eq]
  constructor <;> linarith

/-- No point of a cell is farther from its centre, on either axis, than half a cell. -/
theorem Covers.near (covers : t.Covers cell p) :
    |(t.centerOf cell).x - p.x| ≤ t.cellSize.x / 2 ∧ |(t.centerOf cell).y - p.y| ≤ t.cellSize.y / 2 := by
  obtain ⟨left, right, bottom, top⟩ := covers
  rw [centerOf_eq]
  constructor
  · rw [abs_le]
    constructor <;> linarith
  · rw [abs_le]
    constructor <;> linarith

/-! ## Clamping -/

/-- What clamping a point leads to. -/
structure Brings (t : Tiling ℝ) (margin : ℝ) (p q : Point ℝ) : Prop where
  clamped : t.clamp margin p = .ok q
  inside : t.Contains q
  again : t.clamp margin q = .ok q
  across : p.x ∈ Set.Icc t.bounds.minX (t.bounds.maxX - margin) → q.x = p.x
  up : p.y ∈ Set.Icc t.bounds.minY (t.bounds.maxY - margin) → q.y = p.y

theorem exists_brings (t : Tiling ℝ) (some : 0 < margin)
    (room : margin ≤ min (t.bounds.maxX - t.bounds.minX) (t.bounds.maxY - t.bounds.minY))
    (p : Point ℝ) : ∃ q, t.Brings margin p q := by
  obtain ⟨width, height⟩ := le_min_iff.1 room
  have wide : t.bounds.minX ≤ t.bounds.maxX - margin := by linarith
  have tall : t.bounds.minY ≤ t.bounds.maxY - margin := by linarith
  -- Wherever the point was, it has been brought between the limits.
  have across := And.intro (le_max_left t.bounds.minX (min p.x (t.bounds.maxX - margin)))
    (max_le wide (min_le_right p.x (t.bounds.maxX - margin)))
  have up := And.intro (le_max_left t.bounds.minY (min p.y (t.bounds.maxY - margin)))
    (max_le tall (min_le_right p.y (t.bounds.maxY - margin)))
  refine ⟨_, clamp_eq wide tall p, ⟨across.1, ?_, up.1, ?_⟩, ?_, ?_, ?_⟩
  · exact across.2.trans_lt (sub_lt_self _ some)
  · exact up.2.trans_lt (sub_lt_self _ some)
  · exact clamp_of_inside t across.1 across.2 up.1 up.2
  · rintro ⟨left, right⟩
    exact (congrArg _ (min_eq_left right)).trans (max_eq_right left)
  · rintro ⟨bottom, top⟩
    exact (congrArg _ (min_eq_left top)).trans (max_eq_right bottom)

/-- In exact arithmetic the centre of each cell falls into the cell, each point of the rectangle lies in
the cell that it falls into, within half a cell of the centre, and clamping brings every point into the
rectangle, comes to rest there and leaves alone what is inside. -/
theorem centres_stand_for_cells (t : Tiling ℝ) (addressable : t.Addressable) :
    (∀ cell, Raster.Holds t.rows t.columns cell → t.cellOf (t.centerOf cell) = cell) ∧
      (∀ p, t.Contains p → Raster.Holds t.rows t.columns (t.cellOf p) ∧ t.Covers (t.cellOf p) p ∧
        |(t.centerOf (t.cellOf p)).x - p.x| ≤ t.cellSize.x / 2 ∧
        |(t.centerOf (t.cellOf p)).y - p.y| ≤ t.cellSize.y / 2) ∧
      ∀ margin, 0 < margin →
        margin ≤ min (t.bounds.maxX - t.bounds.minX) (t.bounds.maxY - t.bounds.minY) →
          ∀ p, ∃ q, t.Brings margin p q := by
  refine ⟨fun cell inside => ?_, fun p inside => ?_, fun margin some room p => ?_⟩
  · exact (t.covers_centerOf cell).cellOf_eq addressable inside
  · have covers := inside.covers_cellOf addressable
    exact ⟨inside.holds_cellOf, covers, covers.near⟩
  · exact t.exists_brings some room p

theorem exactPair_addressable : exactPair.tiling.Addressable :=
  ⟨by norm_num [exactPair], by norm_num [exactPair]⟩

/-- The right one of two cells, a point of it, and a point that is brought there from outside. -/
theorem exactPair_centres : exactPair.tiling.Addressable ∧
    exactPair.tiling.cellOf (exactPair.tiling.centerOf ⟨0, 1⟩) = ⟨0, 1⟩ ∧
    exactPair.tiling.Covers (exactPair.tiling.cellOf ⟨7 / 4, 0⟩) ⟨7 / 4, 0⟩ ∧
    ∃ q, exactPair.tiling.Brings (1 / 2) ⟨3, 1 / 4⟩ q ∧ q.y = 1 / 4 := by
  obtain ⟨back, lies, brings⟩ := centres_stand_for_cells exactPair.tiling exactPair_addressable
  have inside : exactPair.tiling.Contains ⟨7 / 4, 0⟩ := by
    constructor <;> norm_num [exactPair]
  obtain ⟨q, brought⟩ := brings (1 / 2) (by norm_num) (by norm_num [exactPair]) ⟨3, 1 / 4⟩
  refine ⟨exactPair_addressable, back ⟨0, 1⟩ (by simp [Raster.Holds, exactPair]), (lies _ inside).2.1, q,
    brought, brought.up ?_⟩
  norm_num [exactPair]

end Tiling

end Sightline
