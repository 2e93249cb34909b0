import Sightline.Abort
import Sightline.Fault
import Sightline.Raster

/-!
# Tilings

A tiling cuts a finite rectangle into equal cells.  The first axis of the ground plane runs along
the columns, the second along the rows.  Writing evidence and reading its peak both go through the
tiling, so they agree on which cell is where.
-/

set_option autoImplicit false

namespace Sightline

structure Tiling (α : Type) [Scalar α] where
  bounds : Bounds α
  columns : Nat
  rows : Nat
  finite : bounds.isFinite = true
  isOpen : bounds.isOpen = true
  columns_pos : 0 < columns
  rows_pos : 0 < rows

namespace Tiling

variable {α : Type} [Scalar α]

def cut (bounds : Bounds α) (columns rows : Nat) : Except (Fault α) (Tiling α) :=
  if fits : bounds.isFinite = true ∧ bounds.isOpen = true then
    if cells : 0 < columns ∧ 0 < rows then
      .ok ⟨bounds, columns, rows, fits.1, fits.2, cells.1, cells.2⟩
    else .error (.settings (.untileableInto columns rows))
  else .error (.settings (.untileableBounds bounds))

def cellSize (t : Tiling α) : Point α :=
  ⟨(t.bounds.maxX - t.bounds.minX) / Scalar.ofNat t.columns,
    (t.bounds.maxY - t.bounds.minY) / Scalar.ofNat t.rows⟩

def density (t : Tiling α) : Point α :=
  ⟨Scalar.ofNat t.columns / (t.bounds.maxX - t.bounds.minX),
    Scalar.ofNat t.rows / (t.bounds.maxY - t.bounds.minY)⟩

/-- The cell that a point falls into.  Points outside the rectangle are not brought into it. -/
def cellOf (t : Tiling α) (p : Point α) : Cell where
  row := Scalar.floorCount ((p.y - t.bounds.minY) * t.density.y)
  column := Scalar.floorCount ((p.x - t.bounds.minX) * t.density.x)

def centerOf (t : Tiling α) (cell : Cell) : Point α :=
  ⟨t.bounds.minX + t.cellSize.x * (Scalar.ofNat cell.column + 0.5),
    t.bounds.minY + t.cellSize.y * (Scalar.ofNat cell.row + 0.5)⟩

/-- Holds a coordinate between two limits.  A coordinate outside the order stays as it is. -/
def hold (low high value : α) : Except Abort α :=
  if low ≤ high then .ok (if value < low then low else if high < value then high else value)
  else .error .emptyRange

/-- Brings a point into the rectangle, by `margin` short of its upper sides. -/
def clamp (t : Tiling α) (margin : α) (p : Point α) : Except Abort (Point α) := do
  let x ← hold t.bounds.minX (t.bounds.maxX - margin) p.x
  let y ← hold t.bounds.minY (t.bounds.maxY - margin) p.y
  .ok ⟨x, y⟩

end Tiling

end Sightline
