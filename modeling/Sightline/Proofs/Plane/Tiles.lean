import Mathlib.Analysis.Convex.Basic
import Sightline.Proofs.Evidence.Superposition
import Sightline.Proofs.Plane.Foot

/-!
# Cells of a tiling

In exact arithmetic the cells cover the rectangle without gaps: each has a half-open rectangle of its
own, a point of the rectangle falls into the one cell that covers it, and points no farther apart than a
cell is wide and high fall into the same cell or into neighbours.
-/

set_option autoImplicit false

namespace Sightline

/-- The same cell or one beside it, above, below or across a corner. -/
structure Cell.Touches (cell other : Cell) : Prop where
  up : cell.row ≤ other.row + 1
  down : other.row ≤ cell.row + 1
  right : cell.column ≤ other.column + 1
  left : other.column ≤ cell.column + 1

namespace Exact

variable {a b : ℝ}

theorem floorCount_eq (a : ℝ) : Scalar.floorCount a = min ⌊a⌋₊ (2 ^ 64 - 1) := rfl

theorem floorCount_lt {count : ℕ} (some : 0 < count) (below : a < count) :
    Scalar.floorCount a < count :=
  (min_le_left _ _).trans_lt ((Nat.floor_lt' (Nat.ne_of_gt some)).2 below)

theorem floorCount_of_small (small : a < 2 ^ 64) : Scalar.floorCount a = ⌊a⌋₊ := by
  apply min_eq_left
  have below : ⌊a⌋₊ < 2 ^ 64 := (Nat.floor_lt' (by norm_num)).2 (by exact_mod_cast small)
  omega

theorem floorCount_le_succ (nonneg : 0 ≤ b) (near : a ≤ b + 1) :
    Scalar.floorCount a ≤ Scalar.floorCount b + 1 := by
  have floors : ⌊a⌋₊ ≤ ⌊b⌋₊ + 1 := by
    rw [← Nat.floor_add_one nonneg]
    exact Nat.floor_mono near
  rw [floorCount_eq, floorCount_eq]
  omega

end Exact

/-- Who goes a share of the way stays between limits that hold for both ends. -/
theorem Exact.mem_towards {low high start stop share : ℝ} (first : start ∈ Set.Icc low high)
    (last : stop ∈ Set.Icc low high) (part : share ∈ Set.Icc 0 1) :
    start + (stop - start) * share ∈ Set.Icc low high := by
  rw [mul_comm]
  exact (convex_Icc low high).add_smul_sub_mem first last part

/-- On each axis two points of a line are no farther apart than along it. -/
theorem Segment.abs_pointAt_sub_le (segment : Segment ℝ) (a b : ℝ) :
    |(segment.pointAt a).x - (segment.pointAt b).x| ≤ segment.along.norm * |a - b| ∧
      |(segment.pointAt a).y - (segment.pointAt b).y| ≤ segment.along.norm * |a - b| := by
  have squares := segment.along.norm_sq
  have apart : ∀ start along : ℝ, |along| ≤ segment.along.norm →
      |start + along * a - (start + along * b)| ≤ segment.along.norm * |a - b| := by
    intro start along short
    rw [add_sub_add_left_eq_sub, ← mul_sub, abs_mul]
    exact mul_le_mul_of_nonneg_right short (abs_nonneg _)
  constructor
  · apply apart segment.start.x segment.along.x
    exact abs_le_of_sq_le_sq (by linarith [sq_nonneg segment.along.y]) segment.along.norm_nonneg
  · apply apart segment.start.y segment.along.y
    exact abs_le_of_sq_le_sq (by linarith [sq_nonneg segment.along.x]) segment.along.norm_nonneg

namespace Tiling

variable (t : Tiling ℝ)

/-! ## Sides -/

theorem cellSize_pos : 0 < t.cellSize.x ∧ 0 < t.cellSize.y := by
  obtain ⟨width, height⟩ := t.width_pos
  have columns : (0 : ℝ) < t.columns := by exact_mod_cast t.columns_pos
  have rows : (0 : ℝ) < t.rows := by exact_mod_cast t.rows_pos
  exact ⟨div_pos width columns, div_pos height rows⟩

theorem cellSize_mul_count :
    t.cellSize.x * t.columns = t.bounds.maxX - t.bounds.minX ∧
      t.cellSize.y * t.rows = t.bounds.maxY - t.bounds.minY := by
  have columns : (t.columns : ℝ) ≠ 0 := by exact_mod_cast t.columns_pos.ne'
  have rows : (t.rows : ℝ) ≠ 0 := by exact_mod_cast t.rows_pos.ne'
  exact ⟨div_mul_cancel₀ _ columns, div_mul_cancel₀ _ rows⟩

/-- There are as many cells to a metre as there are cells for their total length. -/
theorem density_eq_inv : t.density.x = t.cellSize.x⁻¹ ∧ t.density.y = t.cellSize.y⁻¹ :=
  ⟨(inv_div _ _).symm, (inv_div _ _).symm⟩

theorem samplingStep_pos : 0 < t.samplingStep := by
  obtain ⟨across, up⟩ := t.cellSize_pos
  rw [samplingStep_eq, Exact.lesser_eq_min]
  positivity

/-- Four sampling steps are as long as the smaller side of a cell. -/
theorem four_mul_samplingStep_le :
    4 * t.samplingStep ≤ t.cellSize.x ∧ 4 * t.samplingStep ≤ t.cellSize.y := by
  have four : 4 * t.samplingStep = min t.cellSize.x t.cellSize.y := by
    rw [samplingStep_eq, Exact.lesser_eq_min]
    exact mul_div_cancel₀ _ four_ne_zero
  rw [four]
  exact ⟨min_le_left _ _, min_le_right _ _⟩

/-! ## The cell of a point -/

/-- The rectangle without its upper sides. -/
structure Contains (p : Point ℝ) : Prop where
  left : t.bounds.minX ≤ p.x
  right : p.x < t.bounds.maxX
  bottom : t.bounds.minY ≤ p.y
  top : p.y < t.bounds.maxY

/-- The rectangle of a cell without its upper sides. -/
structure Covers (cell : Cell) (p : Point ℝ) : Prop where
  left : t.bounds.minX + t.cellSize.x * cell.column ≤ p.x
  right : p.x < t.bounds.minX + t.cellSize.x * (cell.column + 1)
  bottom : t.bounds.minY + t.cellSize.y * cell.row ≤ p.y
  top : p.y < t.bounds.minY + t.cellSize.y * (cell.row + 1)

/-- The numbers of columns and rows are counted in 64 bits. -/
def Addressable : Prop := t.columns < 2 ^ 64 ∧ t.rows < 2 ^ 64

theorem cellOf_eq (p : Point ℝ) : t.cellOf p =
    ⟨Scalar.floorCount ((p.y - t.bounds.minY) / t.cellSize.y),
      Scalar.floorCount ((p.x - t.bounds.minX) / t.cellSize.x)⟩ := by
  rw [cellOf, t.density_eq_inv.1, t.density_eq_inv.2]
  rfl

variable {t} {cell : Cell} {p q : Point ℝ}

theorem Contains.lt_count (inside : t.Contains p) :
    (p.x - t.bounds.minX) / t.cellSize.x < t.columns ∧
      (p.y - t.bounds.minY) / t.cellSize.y < t.rows := by
  obtain ⟨across, up⟩ := t.cellSize_pos
  obtain ⟨width, height⟩ := t.cellSize_mul_count
  rw [div_lt_iff₀' across, div_lt_iff₀' up, width, height]
  exact ⟨sub_lt_sub_right inside.right _, sub_lt_sub_right inside.top _⟩

theorem Contains.nonneg (inside : t.Contains p) :
    0 ≤ (p.x - t.bounds.minX) / t.cellSize.x ∧ 0 ≤ (p.y - t.bounds.minY) / t.cellSize.y := by
  obtain ⟨across, up⟩ := t.cellSize_pos
  exact ⟨div_nonneg (sub_nonneg.2 inside.left) across.le,
    div_nonneg (sub_nonneg.2 inside.bottom) up.le⟩

theorem Contains.holds_cellOf (inside : t.Contains p) :
    Raster.Holds t.rows t.columns (t.cellOf p) := by
  obtain ⟨across, up⟩ := inside.lt_count
  rw [cellOf_eq]
  exact ⟨Exact.floorCount_lt t.rows_pos up, Exact.floorCount_lt t.columns_pos across⟩

/-- A point of the rectangle lies in the rectangle of its cell. -/
theorem Contains.covers_cellOf (inside : t.Contains p) (addressable : t.Addressable) :
    t.Covers (t.cellOf p) p := by
  obtain ⟨across, up⟩ := t.cellSize_pos
  obtain ⟨column, row⟩ := inside.lt_count
  obtain ⟨columnNonneg, rowNonneg⟩ := inside.nonneg
  have columns : (t.columns : ℝ) < 2 ^ 64 := by exact_mod_cast addressable.1
  have rows : (t.rows : ℝ) < 2 ^ 64 := by exact_mod_cast addressable.2
  rw [cellOf_eq, Exact.floorCount_of_small (column.trans columns),
    Exact.floorCount_of_small (row.trans rows)]
  refine ⟨?_, ?_, ?_, ?_⟩
  · rw [← le_sub_iff_add_le', ← le_div_iff₀' across]
    exact Nat.floor_le columnNonneg
  · rw [← sub_lt_iff_lt_add', ← div_lt_iff₀' across]
    exact Nat.lt_floor_add_one _
  · rw [← le_sub_iff_add_le', ← le_div_iff₀' up]
    exact Nat.floor_le rowNonneg
  · rw [← sub_lt_iff_lt_add', ← div_lt_iff₀' up]
    exact Nat.lt_floor_add_one _

/-- A cell of the tiling lies in the rectangle. -/
theorem Covers.contains (covers : t.Covers cell p) (inside : Raster.Holds t.rows t.columns cell) :
    t.Contains p := by
  obtain ⟨across, up⟩ := t.cellSize_pos
  obtain ⟨width, height⟩ := t.cellSize_mul_count
  have column : (cell.column : ℝ) + 1 ≤ t.columns := by exact_mod_cast inside.2
  have row : (cell.row : ℝ) + 1 ≤ t.rows := by exact_mod_cast inside.1
  have right := mul_le_mul_of_nonneg_left column across.le
  have top := mul_le_mul_of_nonneg_left row up.le
  have left : 0 ≤ t.cellSize.x * cell.column := mul_nonneg across.le (Nat.cast_nonneg _)
  have bottom : 0 ≤ t.cellSize.y * cell.row := mul_nonneg up.le (Nat.cast_nonneg _)
  refine ⟨?_, ?_, ?_, ?_⟩
  · linarith [covers.left]
  · linarith [covers.right]
  · linarith [covers.bottom]
  · linarith [covers.top]

/-- Points that are no farther apart than a cell is wide and high fall into cells that touch. -/
theorem Contains.touches (inside : t.Contains p) (insideToo : t.Contains q)
    (across : |p.x - q.x| ≤ t.cellSize.x) (up : |p.y - q.y| ≤ t.cellSize.y) :
    (t.cellOf p).Touches (t.cellOf q) := by
  obtain ⟨width, height⟩ := t.cellSize_pos
  obtain ⟨pColumn, pRow⟩ := inside.nonneg
  obtain ⟨qColumn, qRow⟩ := insideToo.nonneg
  obtain ⟨fromLeft, fromRight⟩ := abs_le.1 across
  obtain ⟨fromBelow, fromAbove⟩ := abs_le.1 up
  have columns : ∀ {a b : ℝ}, a - b ≤ t.cellSize.x →
      (a - t.bounds.minX) / t.cellSize.x ≤ (b - t.bounds.minX) / t.cellSize.x + 1 := by
    intro a b near
    rw [div_add_one width.ne', div_le_div_iff_of_pos_right width]
    linarith
  have rows : ∀ {a b : ℝ}, a - b ≤ t.cellSize.y →
      (a - t.bounds.minY) / t.cellSize.y ≤ (b - t.bounds.minY) / t.cellSize.y + 1 := by
    intro a b near
    rw [div_add_one height.ne', div_le_div_iff_of_pos_right height]
    linarith
  rw [cellOf_eq, cellOf_eq]
  exact ⟨Exact.floorCount_le_succ qRow (rows (by linarith)),
    Exact.floorCount_le_succ pRow (rows (by linarith)),
    Exact.floorCount_le_succ qColumn (columns (by linarith)),
    Exact.floorCount_le_succ pColumn (columns (by linarith))⟩

/-! ## Held points -/

/-- The rectangle, by half a sampling step short of its upper sides. -/
structure Keeps (t : Tiling ℝ) (p : Point ℝ) : Prop where
  across : p.x ∈ Set.Icc t.bounds.minX (t.bounds.maxX - t.samplingStep / 2)
  up : p.y ∈ Set.Icc t.bounds.minY (t.bounds.maxY - t.samplingStep / 2)

/-- A point brought into the shortened rectangle, on each axis by as little as possible. -/
noncomputable def held (t : Tiling ℝ) (p : Point ℝ) : Point ℝ :=
  ⟨max t.bounds.minX (min p.x (t.bounds.maxX - t.samplingStep / 2)),
    max t.bounds.minY (min p.y (t.bounds.maxY - t.samplingStep / 2))⟩

noncomputable def heldRay (t : Tiling ℝ) (ray : Segment ℝ) : Segment ℝ :=
  ⟨t.held ray.start, t.held ray.stop⟩

noncomputable def heldLength (t : Tiling ℝ) (ray : Segment ℝ) : ℝ := (t.heldRay ray).along.norm

theorem hold_eq {low high : ℝ} (room : low ≤ high) (value : ℝ) :
    hold low high value = .ok (max low (min value high)) := by
  rw [hold, if_pos room]
  split
  · rename_i below
    rw [max_eq_left ((min_le_left _ _).trans below.le)]
  · rename_i notBelow
    split
    · rename_i above
      rw [min_eq_right above.le, max_eq_right room]
    · rename_i notAbove
      rw [min_eq_left (not_lt.1 notAbove), max_eq_right (not_lt.1 notBelow)]

theorem clamp_eq {margin : ℝ} (across : t.bounds.minX ≤ t.bounds.maxX - margin)
    (up : t.bounds.minY ≤ t.bounds.maxY - margin) (p : Point ℝ) :
    t.clamp margin p = .ok ⟨max t.bounds.minX (min p.x (t.bounds.maxX - margin)),
      max t.bounds.minY (min p.y (t.bounds.maxY - margin))⟩ := by
  rw [clamp, hold_eq across, hold_eq up]
  rfl

theorem clampEnds_eq (t : Tiling ℝ) (ray : Segment ℝ) : t.clampEnds ray = .ok (t.heldRay ray) :=
  clampEnds_of_clamp (clamp_eq t.hasRoom.across t.hasRoom.up ray.start)
    (clamp_eq t.hasRoom.across t.hasRoom.up ray.stop)

theorem keeps_held (t : Tiling ℝ) (p : Point ℝ) : t.Keeps (t.held p) :=
  ⟨⟨le_max_left _ _, max_le t.hasRoom.across (min_le_right _ _)⟩,
    ⟨le_max_left _ _, max_le t.hasRoom.up (min_le_right _ _)⟩⟩

theorem Keeps.contains (keeps : t.Keeps p) : t.Contains p := by
  have step := t.samplingStep_pos
  obtain ⟨⟨left, right⟩, bottom, top⟩ := keeps
  exact ⟨left, by linarith, bottom, by linarith⟩

theorem keeps_pointAt (t : Tiling ℝ) (ray : Segment ℝ) {share : ℝ} (part : share ∈ Set.Icc 0 1) :
    t.Keeps ((t.heldRay ray).pointAt share) := by
  have start := t.keeps_held ray.start
  have stop := t.keeps_held ray.stop
  exact ⟨Exact.mem_towards start.across stop.across part, Exact.mem_towards start.up stop.up part⟩

/-- Within four steps of one another a ray meets cells that touch. -/
theorem touches_pointAt (t : Tiling ℝ) (ray : Segment ℝ) {a b : ℝ} (first : a ∈ Set.Icc 0 1)
    (second : b ∈ Set.Icc 0 1)
    (near : t.heldLength ray * |a - b| ≤ 4 * t.samplingStep) :
    (t.cellOf ((t.heldRay ray).pointAt a)).Touches (t.cellOf ((t.heldRay ray).pointAt b)) := by
  obtain ⟨across, up⟩ := (t.heldRay ray).abs_pointAt_sub_le a b
  obtain ⟨width, height⟩ := t.four_mul_samplingStep_le
  exact (t.keeps_pointAt ray first).contains.touches (t.keeps_pointAt ray second).contains
    (across.trans (near.trans width)) (up.trans (near.trans height))

/-! ## Centres -/

/-- Different cells have different centres. -/
theorem centerOf_injective : Function.Injective t.centerOf := by
  obtain ⟨width, height⟩ := t.cellSize_pos
  rintro ⟨row, column⟩ ⟨otherRow, otherColumn⟩ same
  obtain ⟨x, y⟩ := Point.mk.inj same
  have columns : (column : ℝ) = otherColumn :=
    add_right_cancel (mul_left_cancel₀ width.ne' (add_left_cancel x))
  have rows : (row : ℝ) = otherRow :=
    add_right_cancel (mul_left_cancel₀ height.ne' (add_left_cancel y))
  exact congrArg₂ Cell.mk (Nat.cast_injective rows) (Nat.cast_injective columns)

end Tiling

end Sightline
