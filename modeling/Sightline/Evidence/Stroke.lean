import Sightline.Tiling

/-!
# Strokes

A ray marks the cells that it passes by being sampled at equal steps, a quarter of the smaller side
of a cell long.  Both ends are first brought into the rectangle, half a step short of its upper
sides, so that every sample falls into a cell.
-/

set_option autoImplicit false

namespace Sightline

structure Stroke (α : Type) where
  start : Point α
  step : Point α
  count : Nat
deriving Repr

variable {α : Type} [Scalar α]

namespace Stroke

def samplesFrom (step : Point α) : Nat → Point α → List (Point α)
  | 0, _ => []
  | count + 1, p => p :: samplesFrom step count (p + step)

def samples (s : Stroke α) : List (Point α) := samplesFrom s.step s.count s.start

def markFrom {rows columns : Nat} (t : Tiling α) (change : α → α) (step : Point α) :
    Nat → Point α → Raster α rows columns → Raster α rows columns
  | 0, _, raster => raster
  | count + 1, p, raster => markFrom t change step count (p + step) (raster.change (t.cellOf p) change)

def mark {rows columns : Nat} (s : Stroke α) (t : Tiling α) (change : α → α)
    (raster : Raster α rows columns) : Raster α rows columns :=
  markFrom t change s.step s.count s.start raster

theorem markFrom_eq_foldl {rows columns : Nat} (t : Tiling α) (change : α → α) (step : Point α) :
    ∀ (count : Nat) (p : Point α) (raster : Raster α rows columns),
      markFrom t change step count p raster =
        (samplesFrom step count p).foldl (fun marked q => marked.change (t.cellOf q) change) raster := by
  intro count
  induction count with
  | zero => intro p raster; rfl
  | succ count ih => intro p raster; exact ih _ _

theorem mark_eq_foldl {rows columns : Nat} (s : Stroke α) (t : Tiling α) (change : α → α)
    (raster : Raster α rows columns) :
    s.mark t change raster =
      s.samples.foldl (fun marked p => marked.change (t.cellOf p) change) raster :=
  markFrom_eq_foldl t change s.step s.count s.start raster

end Stroke

namespace Tiling

def samplingStep (t : Tiling α) : α := Scalar.lesser t.cellSize.x t.cellSize.y / 4

def clampEnds (t : Tiling α) (segment : Segment α) : Except Abort (Segment α) := do
  let margin := t.samplingStep / 2
  let start ← t.clamp margin segment.start
  let stop ← t.clamp margin segment.stop
  .ok ⟨start, stop⟩

/-- The stroke along a segment inside the rectangle, unless the segment is shorter than a step. -/
def strokeAlong (t : Tiling α) (segment : Segment α) : Option (Stroke α) :=
  let step := t.samplingStep
  let length := segment.along.norm
  if length < step then none
  else
    some
      { start := segment.start
        step := segment.along.scale (step / length)
        count := Scalar.floorCount (length / step) }

def stroke (t : Tiling α) (segment : Segment α) : Except Abort (Option (Stroke α)) := do
  .ok (t.strokeAlong (← t.clampEnds segment))

end Tiling

end Sightline
