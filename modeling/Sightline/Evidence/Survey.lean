import Sightline.Evidence
import Sightline.Tally

/-!
# Surveys

Where the lines of sight of two cameras cross, somebody stands: the surface of a survey keeps the
summed evidence of a cell only where more than one camera is above the threshold.  Its peak is the
focus.  A survey with evidence also gauges the sum before the mask.
-/

set_option autoImplicit false

namespace Sightline

structure Focus (α : Type) where
  position : Point α
  value : α
deriving Repr

/-- How many rows or columns of a surface a picture has.  It counts them in 32 bits, so from a surface
with more it has what is left after the last full round of the count. -/
def Heatmap.side (count : Nat) : Nat := count % UInt32.size

theorem Heatmap.side_le (count : Nat) : side count ≤ count := Nat.mod_le count UInt32.size

theorem Heatmap.side_of_lt {count : Nat} (small : count < UInt32.size) : side count = count :=
  Nat.mod_eq_of_lt small

/-- A picture of a surface with this many rows and columns. -/
abbrev Heatmap (rows columns : Nat) : Type := Raster UInt8 (Heatmap.side rows) (Heatmap.side columns)

/-- The picture of a surface, given the levels of all its cells. -/
def Heatmap.ofLevels {rows columns : Nat} (levels : Raster UInt8 rows columns) : Heatmap rows columns :=
  levels.corner (side_le rows) (side_le columns)

namespace Evidence

variable {α : Type} [Scalar α] {plan : EvidencePlan α}

def sum (e : Evidence plan) : plan.Layer :=
  e.layers.values.foldl (fun total layer => total.zipWith (· + ·) layer) (.fill _ _ 0)

def support (e : Evidence plan) : Raster Nat plan.tiling.rows plan.tiling.columns :=
  e.layers.values.foldl
    (fun counts layer =>
      counts.zipWith (fun n value => if plan.maskThreshold < value then n + 1 else n) layer)
    (.fill _ _ 0)

def weight (cameras : Nat) : α := if 1 < cameras then 1 else 0

/-- The sum where more than one camera supports it, nothing elsewhere. -/
def masked (sum : plan.Layer) (support : Raster Nat plan.tiling.rows plan.tiling.columns) :
    plan.Layer :=
  sum.zipWith (fun value cameras => value * weight cameras) support

def surface (e : Evidence plan) : plan.Layer :=
  if e.layers.entries.isEmpty then .fill _ _ 0 else masked e.sum e.support

/-- The surface, with the sum before the mask gauged if there is any evidence. -/
def survey (e : Evidence plan) (tally : Tally α) : plan.Layer × Tally α :=
  if e.layers.entries.isEmpty then (.fill _ _ 0, tally)
  else
    let sum := e.sum
    let gauged := tally.read .evidenceTotal (sum.fold (· + ·) 0)
    (masked sum e.support, gauged.read .evidencePeak (sum.fold Scalar.peakWith 0))

theorem survey_fst (e : Evidence plan) (tally : Tally α) : (e.survey tally).1 = e.surface := by
  unfold survey surface
  split <;> rfl

/-- The first cell, row after row, that no other exceeds, and its value.  A surface without a value
above the lowest counts as lowest in its first cell. -/
def peak {rows columns : Nat} (surface : Raster α rows columns) : Cell × α :=
  surface.scan
    (fun best cell value => if best.2 < value then (cell, value) else best)
    (⟨0, 0⟩, Scalar.lowest)

def focus (e : Evidence plan) (tally : Tally α) : Focus α × Tally α :=
  let (surface, tally) := e.survey tally
  let (cell, value) := peak surface
  (⟨plan.tiling.centerOf cell, value⟩, tally.read .focusValue value)

def brightest (e : Evidence plan) : Focus α :=
  ⟨plan.tiling.centerOf (peak e.surface).1, (peak e.surface).2⟩

theorem focus_fst (e : Evidence plan) (tally : Tally α) : (e.focus tally).1 = e.brightest := by
  simp only [focus, brightest, survey_fst]

/-- Brightness in proportion to the greatest value, which is white; all black if none is above
zero. -/
def shade {rows columns : Nat} (surface : Raster α rows columns) : Heatmap rows columns :=
  let white := surface.fold Scalar.peakWith 0
  .ofLevels (surface.map fun value => if 0 < white then Scalar.level (value / white * 255) else 0)

def heatmap (e : Evidence plan) (tally : Tally α) :
    Heatmap plan.tiling.rows plan.tiling.columns × Tally α :=
  let (surface, tally) := e.survey tally
  (shade surface, tally)

end Evidence

end Sightline
