import Sightline.Proofs.Raster.Scan
import Sightline.Proofs.Scalar.Ordered

/-!
# The first of the greatest values

A scan for the greatest value starts below all of them and takes a cell only if it is above what it has.
So it ends at the first cell, row after row, of those with the greatest value of the order.  A cell with
the lowest value of all is never taken: where there is nothing else, the scan stays where it starts, and
whether that is the cell looked for depends on whether the first cell is in the order.  A running
maximum over the store meets the cells in another order and ends at the same value, or at its start if
that is above them all.
-/

set_option autoImplicit false

namespace Sightline

/-! ## Cells by their place in the store -/

namespace Raster

variable {α : Type} {rows columns : Nat} {raster : Raster α rows columns} {cell : Cell} {a : α}

theorem value?_eq_some : raster.value? cell = some a ↔ ∃ inside, raster.value cell inside = a := by
  unfold value?
  split
  · rename_i inside
    simp [inside]
  · rename_i outside
    simp [outside]

theorem value?_of_holds (inside : Holds rows columns cell) :
    raster.value? cell = some (raster.value cell inside) :=
  value?_eq_some.2 ⟨inside, rfl⟩

theorem value?_of_not_holds (outside : ¬ Holds rows columns cell) : raster.value? cell = none :=
  dif_neg outside

theorem isSome_value? : (raster.value? cell).isSome = true ↔ Holds rows columns cell := by
  unfold value?
  split
  · rename_i inside
    simp [inside]
  · rename_i outside
    simp [outside]

theorem value?_map {β : Type} (f : α → β) (raster : Raster α rows columns) (cell : Cell) :
    (raster.map f).value? cell = (raster.value? cell).map f := by
  unfold value?
  split
  · rw [value_map, Option.map_some]
  · rfl

theorem value?_corner {rows' columns' : Nat} (raster : Raster α rows columns) (lower : rows' ≤ rows)
    (narrower : columns' ≤ columns) (cell : Cell) : (raster.corner lower narrower).value? cell =
      if Holds rows' columns' cell then raster.value? cell else none := by
  split
  · rename_i inside
    rw [value?_of_holds inside, value?_of_holds (inside.mono lower narrower), value_corner]
  · rename_i outside
    exact value?_of_not_holds outside

theorem exists_slot {i : Nat} (inside : i < columns * rows) :
    ∃ cell, Holds rows columns cell ∧ slot rows cell = i :=
  ⟨cellAt rows i, holds_cellAt inside, slot_cellAt rows i⟩

theorem mem_cells_iff : a ∈ raster.cells.toList ↔ ∃ cell, raster.value? cell = some a := by
  rw [Vector.mem_toList_iff, Vector.mem_iff_getElem]
  constructor
  · rintro ⟨i, bound, rfl⟩
    obtain ⟨cell, inside, rfl⟩ := exists_slot bound
    exact ⟨cell, value?_of_holds inside⟩
  · rintro ⟨cell, found⟩
    obtain ⟨inside, rfl⟩ := value?_eq_some.1 found
    exact ⟨slot rows cell, slot_lt inside, rfl⟩

theorem fold_eq_foldl {γ : Type} (f : γ → α → γ) (start : γ) :
    raster.fold f start = raster.cells.toList.foldl f start := by
  simp [fold]

/-! ### Running maxima of exact numbers -/

theorem isGreatest_foldl_peakWith (values : List ℝ) (start : ℝ) :
    IsGreatest {value | value = start ∨ value ∈ values} (values.foldl Scalar.peakWith start) := by
  induction values generalizing start with
  | nil => simp [IsGreatest, upperBounds]
  | cons value rest ih =>
      obtain ⟨reached, above⟩ := ih (Scalar.peakWith start value)
      have either : Scalar.peakWith start value = max start value := by
        unfold Scalar.peakWith
        split
        · rename_i less
          exact (max_eq_right less.le).symm
        · rename_i notLess
          exact (max_eq_left (not_lt.1 notLess)).symm
      have best : max start value ≤ rest.foldl Scalar.peakWith (Scalar.peakWith start value) :=
        either ▸ above (.inl rfl)
      refine ⟨?_, ?_⟩
      · rcases reached with same | member
        · rw [List.foldl_cons]
          rcases max_choice start value with first | second
          · exact .inl (same.trans (either.trans first))
          · exact .inr (List.mem_cons.2 (.inl (same.trans (either.trans second))))
        · exact .inr (List.mem_cons_of_mem value member)
      · rintro other (rfl | member)
        · exact (le_max_left _ _).trans best
        · rcases List.mem_cons.1 member with rfl | member
          · exact (le_max_right _ _).trans best
          · exact above (.inr member)

/-- A running maximum over all cells is the greatest of them and of its start. -/
theorem isGreatest_fold_peakWith (raster : Raster ℝ rows columns) (start : ℝ) :
    IsGreatest {value | value = start ∨ ∃ cell, raster.value? cell = some value}
      (raster.fold Scalar.peakWith start) := by
  have greatest := isGreatest_foldl_peakWith raster.cells.toList start
  simpa only [fold_eq_foldl, mem_cells_iff] using greatest

/-- The greatest of values that are not below zero is at most their sum. -/
theorem fold_peakWith_le_sum {raster : Raster ℝ rows columns}
    (nonneg : ∀ cell value, raster.value? cell = some value → 0 ≤ value) :
    raster.fold Scalar.peakWith 0 ≤ raster.fold (· + ·) 0 := by
  have listed : ∀ value ∈ raster.cells.toList, 0 ≤ value := by
    intro value member
    obtain ⟨cell, found⟩ := mem_cells_iff.1 member
    exact nonneg cell value found
  rw [fold_eq_foldl (· + ·), ← List.sum_eq_foldl]
  rcases (isGreatest_fold_peakWith raster 0).1 with none | ⟨cell, found⟩
  · rw [none]
    exact List.sum_nonneg listed
  · exact List.single_le_sum listed _ (mem_cells_iff.2 ⟨cell, found⟩)

end Raster

namespace Evidence

variable {α : Type} [Scalar α] {rows columns : Nat} {surface : Raster α rows columns}

/-- The greatest value of the order on a surface, and the first cell that holds it. -/
structure FirstPeak (surface : Raster α rows columns) (cell : Cell) (greatest : α) : Prop where
  held : surface.value? cell = some greatest
  ordered : Scalar.Ordered greatest
  atMost : ∀ other value, surface.value? other = some value → Scalar.Ordered value → value ≤ greatest
  before : ∀ other value, surface.value? other = some value → other.Before cell.row cell.column →
    Scalar.Ordered value → value < greatest

/-- Nothing on a surface is above the lowest value, and the first cell is outside the order. -/
structure Sunken (surface : Raster α rows columns) : Prop where
  low : ∀ cell value, surface.value? cell = some value → ¬ Scalar.lowest < value
  blank : ∀ value, surface.value? ⟨0, 0⟩ = some value → ¬ Scalar.Ordered value

theorem firstPeak_peak [LawfulScalar α] [OrderedScalar α] [ComparingScalar α]
    (above : Scalar.lowest < (peak surface).2) :
    FirstPeak surface (peak surface).1 (peak surface).2 := by
  have notLowest : (peak surface).2 ≠ Scalar.lowest := by
    intro same
    rw [same] at above
    exact LawfulScalar.lt_irrefl _ above
  have ordered := ComparingScalar.ordered_of_lt above
  obtain ⟨inside, held, greatest, first⟩ := peak_spec surface notLowest
  refine ⟨Raster.value?_eq_some.2 ⟨inside, held.symm⟩, ordered, ?_, ?_⟩
  · intro other value found number
    obtain ⟨otherInside, rfl⟩ := Raster.value?_eq_some.1 found
    exact OrderedScalar.le_of_not_lt ordered number (greatest other otherInside)
  · intro other value found earlier number
    obtain ⟨otherInside, rfl⟩ := Raster.value?_eq_some.1 found
    by_contra notBelow
    exact first other otherInside earlier (OrderedScalar.le_of_not_lt number ordered notBelow)

/-- Of cells that all hold one value or none of the order, the first in the order is the peak. -/
theorem firstPeak_of_flat {cell : Cell} {level : α} (number : Scalar.Ordered level)
    (flat : ∀ other value, surface.value? other = some value → Scalar.Ordered value → value = level)
    (held : surface.value? cell = some level)
    (first : ∀ other value, surface.value? other = some value → other.Before cell.row cell.column →
      ¬ Scalar.Ordered value) : FirstPeak surface cell level := by
  refine ⟨held, number, ?_, ?_⟩
  · intro other value found ordered
    rw [flat other value found ordered]
    exact number
  · intro other value found earlier ordered
    exact absurd ordered (first other value found earlier)

/-- The places of the cells with a value of the order, row after row. -/
def orderedPlaces (surface : Raster α rows columns) : Set (ℕ ×ₗ ℕ) :=
  {place | ∃ value, surface.value? ⟨(ofLex place).1, (ofLex place).2⟩ = some value ∧
    Scalar.Ordered value}

/-- Wherever there is a value of the order, there is a first cell with one. -/
theorem exists_first_ordered {cell : Cell} {value : α} (found : surface.value? cell = some value)
    (ordered : Scalar.Ordered value) :
    ∃ first value, surface.value? first = some value ∧ Scalar.Ordered value ∧
      ∀ other value, surface.value? other = some value → other.Before first.row first.column →
        ¬ Scalar.Ordered value := by
  have filled : (orderedPlaces surface).Nonempty :=
    ⟨toLex (cell.row, cell.column), value, found, ordered⟩
  obtain ⟨place, ⟨value, found, ordered⟩, least⟩ := wellFounded_lt.has_min _ filled
  refine ⟨_, value, found, ordered, ?_⟩
  intro other value found earlier ordered
  exact least (toLex (other.row, other.column)) ⟨value, found, ordered⟩ (Prod.Lex.lt_iff.2 earlier)

/-- On a surface with a value of the order the greatest one is found, and where it is, unless it is the
lowest of all and stands behind a first cell outside the order. -/
theorem exists_firstPeak {surface : Raster Float rows columns} {cell : Cell} {value : Float}
    (found : surface.value? cell = some value) (ordered : Scalar.Ordered value) :
    ∃ first, FirstPeak surface first (peak surface).2 ∧
      (¬ Sunken surface → (peak surface).1 = first) ∧
      (Sunken surface → (peak surface).1 = ⟨0, 0⟩) := by
  rcases peak_best surface with ⟨start, low⟩ | ⟨inside, held, above, _⟩
  · have low : ∀ other value, surface.value? other = some value → ¬ Scalar.lowest < value := by
      intro other value found
      obtain ⟨inside, rfl⟩ := Raster.value?_eq_some.1 found
      exact low other inside (.inl inside.1)
    have number : Scalar.Ordered (Scalar.lowest : Float) := by decide +kernel
    -- Nothing was taken, so all that is in the order is the lowest value.
    have flat : ∀ other value, surface.value? other = some value → Scalar.Ordered value →
        value = Scalar.lowest := fun other value found ordered =>
      Binary64.eq_lowest ordered (low other value found)
    rw [start]
    by_cases blank : ∀ value, surface.value? ⟨0, 0⟩ = some value → ¬ Scalar.Ordered value
    · obtain ⟨first, value, found, ordered, least⟩ := exists_first_ordered found ordered
      rw [flat first value found ordered] at found
      refine ⟨first, firstPeak_of_flat number flat found least, ?_, fun _ => rfl⟩
      exact fun notSunken => absurd ⟨low, blank⟩ notSunken
    · push Not at blank
      obtain ⟨value, found, ordered⟩ := blank
      have held := found
      rw [flat _ value found ordered] at held
      refine ⟨⟨0, 0⟩, firstPeak_of_flat number flat held ?_, fun _ => rfl, fun _ => rfl⟩
      rintro other _ _ (above | ⟨_, left⟩)
      · exact absurd above (Nat.not_lt_zero _)
      · exact absurd left (Nat.not_lt_zero _)
  · refine ⟨_, firstPeak_peak above, fun _ => rfl, fun sunken => ?_⟩
    exact absurd above (sunken.low _ _ (Raster.value?_eq_some.2 ⟨inside, held.symm⟩))

end Evidence

end Sightline
