import Sightline.Evidence.Survey
import Sightline.Proofs.Scalar.Lawful

/-!
# Scans and their peaks

A scan meets the cells of a raster row after row; what every cell keeps, going from one position to
the next, the whole scan keeps.  The peak of a surface is the greatest value, and the first of
equals in this order.
-/

set_option autoImplicit false

namespace Sightline

def Cell.Before (cell : Cell) (row column : Nat) : Prop :=
  cell.row < row ∨ cell.row = row ∧ cell.column < column

namespace Raster

variable {α γ : Type} {rows columns : Nat}

theorem fold_induction {P : Nat → γ → Prop} {start : γ} (begins : P 0 start) :
    ∀ (n : Nat) (f : (i : Nat) → i < n → γ → γ),
      (∀ (i : Nat) (inside : i < n) (gathered : γ), P i gathered → P (i + 1) (f i inside gathered)) →
        P n (Nat.fold n f start) := by
  intro n
  induction n with
  | zero => exact fun _ _ => begins
  | succ n ih =>
      intro f keeps
      rw [Nat.fold_succ]
      exact keeps n (Nat.lt_succ_self n) _ (ih _ fun i inside => keeps i _)

/-- What holds at the first position, is kept from each cell to the next and from the end of each
row to the start of the next, holds after the last row. -/
theorem scan_induction {P : Nat → Nat → γ → Prop} {f : γ → Cell → α → γ} {start : γ}
    (raster : Raster α rows columns) (begins : P 0 0 start)
    (cell : ∀ (row column : Nat) (inside : Holds rows columns ⟨row, column⟩) (gathered : γ),
      P row column gathered →
        P row (column + 1) (f gathered ⟨row, column⟩ (raster.value ⟨row, column⟩ inside)))
    (row : ∀ (row : Nat) (gathered : γ), P row columns gathered → P (row + 1) 0 gathered) :
    P rows 0 (raster.scan f start) := by
  refine fold_induction (P := fun row => P row 0) begins rows _ ?_
  intro i rowInside gathered before
  refine row i _ ?_
  refine fold_induction (P := P i) before columns _ ?_
  exact fun j columnInside between => cell i j ⟨rowInside, columnInside⟩ between

end Raster

/-! ## Peaks -/

namespace Evidence

variable {α : Type} [Scalar α] {rows columns : Nat}

/-- The best of the cells before a position: none of them is above the lowest, or one is, no other
exceeds it, and none before it reaches it. -/
def BestBefore (surface : Raster α rows columns) (row column : Nat) (best : Cell × α) : Prop :=
  (best = (⟨0, 0⟩, Scalar.lowest) ∧
      ∀ (cell : Cell) (inside : Raster.Holds rows columns cell), cell.Before row column →
        ¬ Scalar.lowest < surface.value cell inside) ∨
    ∃ inside : Raster.Holds rows columns best.1, best.2 = surface.value best.1 inside ∧
      Scalar.lowest < best.2 ∧
      (∀ (cell : Cell) (inside : Raster.Holds rows columns cell), cell.Before row column →
        ¬ best.2 < surface.value cell inside) ∧
      ∀ (cell : Cell) (inside : Raster.Holds rows columns cell),
        cell.Before best.1.row best.1.column → ¬ best.2 ≤ surface.value cell inside

variable {surface : Raster α rows columns}

theorem BestBefore.notBelow {row column : Nat} {best : Cell × α}
    (holds : BestBefore surface row column best) {cell : Cell}
    (inside : Raster.Holds rows columns cell) (before : cell.Before row column) :
    ¬ best.2 < surface.value cell inside := by
  rcases holds with ⟨rfl, none⟩ | ⟨_, _, _, greatest, _⟩
  · exact none cell inside before
  · exact greatest cell inside before

variable [LawfulScalar α]

theorem BestBefore.next {row column : Nat} {best : Cell × α}
    (holds : BestBefore surface row column best)
    (inside : Raster.Holds rows columns ⟨row, column⟩) :
    BestBefore surface row (column + 1)
      (if best.2 < surface.value ⟨row, column⟩ inside then
        (⟨row, column⟩, surface.value ⟨row, column⟩ inside) else best) := by
  have before : ∀ cell : Cell, cell.Before row (column + 1) →
      cell.Before row column ∨ cell = ⟨row, column⟩ := by
    rintro ⟨row', column'⟩ (above | ⟨rfl, left⟩)
    · exact .inl (.inl above)
    · rcases Nat.lt_succ_iff_lt_or_eq.1 left with left | rfl
      · exact .inl (.inr ⟨rfl, left⟩)
      · exact .inr rfl
  split
  · rename_i better
    refine .inr ⟨inside, rfl, ?_, ?_, ?_⟩
    · rcases holds with ⟨rfl, _⟩ | ⟨_, _, above, _, _⟩
      · exact better
      · exact LawfulScalar.lt_trans above better
    · intro cell cellInside earlier greater
      rcases before cell earlier with earlier | rfl
      · exact holds.notBelow cellInside earlier (LawfulScalar.lt_trans better greater)
      · exact LawfulScalar.lt_irrefl _ greater
    · intro cell cellInside earlier reaches
      exact holds.notBelow cellInside earlier (LawfulScalar.lt_of_lt_of_le better reaches)
  · rename_i notBetter
    rcases holds with ⟨rfl, none⟩ | ⟨bestInside, value, above, greatest, first⟩
    · refine .inl ⟨rfl, fun cell cellInside earlier => ?_⟩
      rcases before cell earlier with earlier | rfl
      · exact none cell cellInside earlier
      · exact notBetter
    · refine .inr ⟨bestInside, value, above, fun cell cellInside earlier => ?_, first⟩
      rcases before cell earlier with earlier | rfl
      · exact greatest cell cellInside earlier
      · exact notBetter

omit [LawfulScalar α] in
theorem BestBefore.nextRow {row : Nat} {best : Cell × α}
    (holds : BestBefore surface row columns best) : BestBefore surface (row + 1) 0 best := by
  have before : ∀ cell : Cell, Raster.Holds rows columns cell → cell.Before (row + 1) 0 →
      cell.Before row columns := by
    rintro ⟨row', column'⟩ ⟨_, columnInside⟩ (above | ⟨_, left⟩)
    · rcases Nat.lt_succ_iff_lt_or_eq.1 above with above | rfl
      · exact .inl above
      · exact .inr ⟨rfl, columnInside⟩
    · exact absurd left (Nat.not_lt_zero _)
  rcases holds with ⟨rfl, none⟩ | ⟨bestInside, value, above, greatest, first⟩
  · exact .inl ⟨rfl, fun cell inside earlier => none cell inside (before cell inside earlier)⟩
  · exact .inr ⟨bestInside, value, above,
      fun cell inside earlier => greatest cell inside (before cell inside earlier), first⟩

theorem peak_best (surface : Raster α rows columns) : BestBefore surface rows 0 (peak surface) := by
  refine surface.scan_induction ?_ ?_ fun _ _ => BestBefore.nextRow
  · refine .inl ⟨rfl, fun cell _ before => ?_⟩
    rcases before with above | ⟨_, left⟩
    · exact absurd above (Nat.not_lt_zero _)
    · exact absurd left (Nat.not_lt_zero _)
  · exact fun row column inside best holds => holds.next inside

theorem holds_peak (surface : Raster α rows columns) (someRow : 0 < rows)
    (someColumn : 0 < columns) : Raster.Holds rows columns (peak surface).1 := by
  rcases peak_best surface with ⟨none, _⟩ | ⟨inside, _⟩
  · rw [none]
    exact ⟨someRow, someColumn⟩
  · exact inside

/-- A peak above the lowest is the value of its cell; no cell exceeds it, and none before its cell
reaches it. -/
theorem peak_spec (surface : Raster α rows columns) (above : (peak surface).2 ≠ Scalar.lowest) :
    ∃ inside : Raster.Holds rows columns (peak surface).1,
      (peak surface).2 = surface.value (peak surface).1 inside ∧
        (∀ (cell : Cell) (inside : Raster.Holds rows columns cell),
          ¬ (peak surface).2 < surface.value cell inside) ∧
        ∀ (cell : Cell) (inside : Raster.Holds rows columns cell),
          cell.Before (peak surface).1.row (peak surface).1.column →
            ¬ (peak surface).2 ≤ surface.value cell inside := by
  rcases peak_best surface with ⟨none, _⟩ | ⟨inside, value, _, greatest, first⟩
  · rw [none] at above
    exact absurd rfl above
  · exact ⟨inside, value, fun cell cellInside => greatest cell cellInside (.inl cellInside.1), first⟩

end Evidence

end Sightline
