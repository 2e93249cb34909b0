import Sightline.Scalar

/-!
# Rasters

A raster holds one value for every cell of a grid of rows and columns.  It is stored column after
column, so a fold over all cells meets them in that order; `scan` meets them row after row.
-/

set_option autoImplicit false

namespace Sightline

structure Cell where
  row : Nat
  column : Nat
deriving Repr, DecidableEq

/-- One value for every cell of a grid, column after column. -/
structure Raster (α : Type) (rows columns : Nat) where
  cells : Vector α (columns * rows)

namespace Raster

variable {α β γ : Type} {rows columns : Nat}

def slot (rows : Nat) (cell : Cell) : Nat := cell.column * rows + cell.row

def Holds (rows columns : Nat) (cell : Cell) : Prop := cell.row < rows ∧ cell.column < columns

instance (cell : Cell) : Decidable (Holds rows columns cell) :=
  inferInstanceAs (Decidable (_ ∧ _))

theorem slot_lt {cell : Cell} (inside : Holds rows columns cell) :
    slot rows cell < columns * rows := by
  obtain ⟨rowInside, columnInside⟩ := inside
  calc cell.column * rows + cell.row < cell.column * rows + rows := by omega
    _ = (cell.column + 1) * rows := by rw [Nat.succ_mul]
    _ ≤ columns * rows := Nat.mul_le_mul_right rows columnInside

theorem Holds.mono {rows' columns' : Nat} {cell : Cell} (inside : Holds rows columns cell)
    (higher : rows ≤ rows') (wider : columns ≤ columns') : Holds rows' columns' cell :=
  ⟨Nat.lt_of_lt_of_le inside.1 higher, Nat.lt_of_lt_of_le inside.2 wider⟩

theorem slot_injective {first second : Cell} (firstInside : first.row < rows)
    (secondInside : second.row < rows) (same : slot rows first = slot rows second) :
    first = second := by
  obtain ⟨row, column⟩ := first
  obtain ⟨row', column'⟩ := second
  simp only [slot] at *
  have columns : column = column' := by
    rcases Nat.lt_trichotomy column column' with before | equal | after
    · have := Nat.mul_le_mul_right rows before
      rw [Nat.succ_mul] at this; omega
    · exact equal
    · have := Nat.mul_le_mul_right rows after
      rw [Nat.succ_mul] at this; omega
  subst columns
  congr 1; omega

/-- The cell that is stored in a slot. -/
def cellAt (rows place : Nat) : Cell := ⟨place % rows, place / rows⟩

theorem slot_cellAt (rows place : Nat) : slot rows (cellAt rows place) = place := by
  rw [slot, cellAt, Nat.mul_comm]
  exact Nat.div_add_mod place rows

theorem holds_cellAt {place : Nat} (inside : place < columns * rows) :
    Holds rows columns (cellAt rows place) := by
  have someRow : 0 < rows := by
    refine Nat.pos_of_ne_zero fun none => ?_
    rw [none, Nat.mul_zero] at inside
    exact Nat.not_lt_zero place inside
  exact ⟨Nat.mod_lt place someRow, Nat.div_lt_of_lt_mul (Nat.mul_comm columns rows ▸ inside)⟩

theorem cellAt_slot {cell : Cell} (inside : Holds rows columns cell) :
    cellAt rows (slot rows cell) = cell :=
  slot_injective (holds_cellAt (slot_lt inside)).1 inside.1 (slot_cellAt rows _)

def value (raster : Raster α rows columns) (cell : Cell) (inside : Holds rows columns cell) : α :=
  have bound := slot_lt inside
  raster.cells[slot rows cell]

def value? (raster : Raster α rows columns) (cell : Cell) : Option α :=
  if inside : Holds rows columns cell then some (raster.value cell inside) else none

def fill (rows columns : Nat) (a : α) : Raster α rows columns :=
  ⟨Vector.replicate _ a⟩

/-- Changes the value of one cell; a cell outside the grid changes nothing. -/
def change (raster : Raster α rows columns) (cell : Cell) (f : α → α) : Raster α rows columns :=
  if Holds rows columns cell then
    ⟨⟨raster.cells.toArray.modify (slot rows cell) f, by simp⟩⟩
  else raster

def map (f : α → β) (raster : Raster α rows columns) : Raster β rows columns :=
  ⟨raster.cells.map f⟩

def zipWith (f : α → β → γ) (first : Raster α rows columns) (second : Raster β rows columns) :
    Raster γ rows columns :=
  ⟨Vector.zipWith f first.cells second.cells⟩

def fold (f : γ → α → γ) (start : γ) (raster : Raster α rows columns) : γ :=
  raster.cells.foldl f start

/-- What is left of a raster when its last rows and columns are cut off. -/
def corner {rows' columns' : Nat} (raster : Raster α rows columns) (lower : rows' ≤ rows)
    (narrower : columns' ≤ columns) : Raster α rows' columns' :=
  ⟨Vector.ofFn fun place : Fin (columns' * rows') =>
    raster.value (cellAt rows' place) ((holds_cellAt place.isLt).mono lower narrower)⟩

/-- Gathers all cells with their values, row after row. -/
def scan (f : γ → Cell → α → γ) (start : γ) (raster : Raster α rows columns) : γ :=
  Nat.fold rows
    (fun row rowInside gathered =>
      Nat.fold columns
        (fun column columnInside gathered =>
          f gathered ⟨row, column⟩ (raster.value ⟨row, column⟩ ⟨rowInside, columnInside⟩))
        gathered)
    start

/-! ## What a cell of a result holds -/

@[simp] theorem value_fill (a : α) (cell : Cell) (inside : Holds rows columns cell) :
    (fill rows columns a).value cell inside = a := by
  simp [fill, Raster.value]

@[simp] theorem value_map (f : α → β) (raster : Raster α rows columns) (cell : Cell)
    (inside : Holds rows columns cell) :
    (raster.map f).value cell inside = f (raster.value cell inside) := by
  simp [map, Raster.value]

@[simp] theorem value_zipWith (f : α → β → γ) (first : Raster α rows columns)
    (second : Raster β rows columns) (cell : Cell) (inside : Holds rows columns cell) :
    (zipWith f first second).value cell inside = f (first.value cell inside) (second.value cell inside) := by
  simp [zipWith, Raster.value]

@[simp] theorem value_corner {rows' columns' : Nat} (raster : Raster α rows columns)
    (lower : rows' ≤ rows) (narrower : columns' ≤ columns) (cell : Cell)
    (inside : Holds rows' columns' cell) :
    (raster.corner lower narrower).value cell inside =
      raster.value cell (inside.mono lower narrower) := by
  simp only [corner, Raster.value, Vector.getElem_ofFn, cellAt_slot inside]

theorem value_change_self (raster : Raster α rows columns) (cell : Cell) (f : α → α)
    (inside : Holds rows columns cell) :
    (raster.change cell f).value cell inside = f (raster.value cell inside) := by
  simp [change, inside, Raster.value, Array.getElem_modify]

theorem value_change_of_ne (raster : Raster α rows columns) {cell other : Cell} (f : α → α)
    (differs : other ≠ cell) (inside : Holds rows columns other) :
    (raster.change cell f).value other inside = raster.value other inside := by
  unfold change
  split
  · rename_i cellInside
    have apart : slot rows cell ≠ slot rows other := fun same =>
      differs (slot_injective inside.1 cellInside.1 same.symm)
    simp [Raster.value, Array.getElem_modify, apart]
  · rfl

/-- A raster is determined by the values of its cells. -/
theorem ext_value {first second : Raster α rows columns}
    (same : ∀ (cell : Cell) (inside : Holds rows columns cell),
      first.value cell inside = second.value cell inside) : first = second := by
  have cells : first.cells = second.cells := by
    refine Vector.ext fun place inside => ?_
    have here := same _ (holds_cellAt inside)
    simpa only [Raster.value, slot_cellAt] using here
  obtain ⟨cells⟩ := first
  exact congrArg Raster.mk cells

end Raster

end Sightline
