import Mathlib.Tactic.Linarith
import Sightline.Proofs.Evidence.Surfaces
import Sightline.Proofs.Raster.Peaks

/-!
# What a focus reports

The focus is the centre of the first cell, row after row, with the greatest value of the surface, and
the value itself is gauged.  Where no cell of a layer is below zero this holds without exception; where
increments below zero have driven every sum that shows to the lowest value, the first cell is reported
even if what it shows is not a number.
-/

set_option autoImplicit false

namespace Sightline

namespace Evidence

/-- The sum before the mask is gauged as soon as there is a layer. -/
theorem gauges_focus {α : Type} [Scalar α] {plan : EvidencePlan α} {e : Evidence plan}
    (some : 0 < e.cameraCount) (tally : Tally α) :
    (e.focus tally).2.evidencePeak = e.sum.fold Scalar.peakWith 0 ∧
      (e.focus tally).2.evidenceTotal = e.sum.fold (· + ·) 0 := by
  have filled : e.layers.entries.isEmpty = false := by
    rw [← Bool.not_eq_true, List.isEmpty_iff_length_eq_zero]
    exact Nat.ne_of_gt some
  simp only [focus, survey, filled]
  exact ⟨rfl, rfl⟩

/-! ## Values not below zero -/

section Rounded

variable {plan : EvidencePlan Float} {e : Evidence plan} {cell : Cell} {value : Float}

/-- What shows is not below zero if no cell of a layer is, whatever else is not a number. -/
theorem surface_nonneg (notBelow : e.AllCells (¬ · < 0)) (found : e.surface.value? cell = some value)
    (ordered : Scalar.Ordered value) : 0 ≤ value := by
  obtain ⟨inside, rfl⟩ := Raster.value?_eq_some.1 found
  by_cases blank : e.layers.entries = []
  · rw [surface_of_no_layers blank, Raster.value_fill]
    exact Binary64.le_refl_of_finite Binary64.zero_finite
  · rw [value_surface_weighed blank, weight] at ordered ⊢
    split at ordered
    · rename_i supported
      rw [if_pos supported]
      rw [LawfulScalar.mul_one] at ordered ⊢
      have sum : e.total cell inside = (e.layers.values.map (·.value cell inside)).foldl (· + ·) 0 := by
        rw [List.foldl_map]
        rfl
      rw [sum] at ordered ⊢
      apply Binary64.foldl_add_nonneg (Binary64.le_refl_of_finite Binary64.zero_finite) _ ordered
      intro value member
      obtain ⟨layer, filed, rfl⟩ := List.mem_map.1 member
      exact notBelow.of_values filed cell inside
    · rename_i unsupported
      rw [if_neg unsupported]
      exact Binary64.nonneg_of_mul_zero ordered

theorem not_sunken (notBelow : e.AllCells (¬ · < 0)) (found : e.surface.value? cell = some value)
    (ordered : Scalar.Ordered value) : ¬ Sunken e.surface := by
  intro sunken
  have above : (Scalar.lowest : Float) < 0 := by decide +kernel
  exact sunken.low cell value found
    (Binary64.lt_of_lt_of_le above (surface_nonneg notBelow found ordered))

end Rounded

/-! ## Gauges of exact numbers -/

section Exact

variable {plan : EvidencePlan ℝ} {e : Evidence plan} {cell : Cell} {value : ℝ}

theorem nonneg_of_sum (nonneg : e.AllCells (0 ≤ ·)) (found : e.sum.value? cell = some value) :
    0 ≤ value := by
  obtain ⟨inside, rfl⟩ := Raster.value?_eq_some.1 found
  rw [value_sum]
  exact total_nonneg nonneg

theorem surface_le_total (nonneg : e.AllCells (0 ≤ ·))
    (inside : Raster.Holds plan.tiling.rows plan.tiling.columns cell) :
    e.surface.value cell inside ≤ e.total cell inside := by
  rw [value_surface]
  split
  · exact le_refl _
  · exact total_nonneg nonneg

theorem peak_le_evidencePeak (nonneg : e.AllCells (0 ≤ ·)) :
    (peak e.surface).2 ≤ e.sum.fold Scalar.peakWith 0 := by
  have greatest := (e.sum.isGreatest_fold_peakWith 0).2
  rcases peak_best e.surface with ⟨none, _⟩ | ⟨inside, held, _⟩
  · have lowest : (peak e.surface).2 = -1 := congrArg Prod.snd none
    have start : (0 : ℝ) ≤ e.sum.fold Scalar.peakWith 0 := greatest (.inl rfl)
    linarith
  · calc (peak e.surface).2 = e.surface.value (peak e.surface).1 inside := held
      _ ≤ e.total (peak e.surface).1 inside := surface_le_total nonneg inside
      _ = e.sum.value (peak e.surface).1 inside := (value_sum ..).symm
      _ ≤ e.sum.fold Scalar.peakWith 0 := greatest (.inr ⟨_, Raster.value?_of_holds inside⟩)

end Exact

/-- Wherever a surface shows a value of the order, the greatest of them is reported and gauged, with
the centre of the first cell that holds it; with the centre of the first cell of all instead, where the
surface is sunken.  Without cells below zero no surface is sunken, and what is reported is not below
zero.  In exact arithmetic the gauges of a survey are in order. -/
theorem focus_is_first_peak {plan : EvidencePlan Float} (e : Evidence plan) (tally : Tally Float) :
    (∀ cell value, e.surface.value? cell = some value → Scalar.Ordered value →
      ∃ first, FirstPeak e.surface first (e.focus tally).1.value ∧
        (¬ Sunken e.surface → (e.focus tally).1.position = plan.tiling.centerOf first) ∧
        (Sunken e.surface → (e.focus tally).1.position = plan.tiling.centerOf ⟨0, 0⟩) ∧
        (e.focus tally).2.focusValue = (e.focus tally).1.value ∧
        (e.AllCells (¬ · < 0) → ¬ Sunken e.surface ∧ 0 ≤ (e.focus tally).1.value)) ∧
      ∀ (plan : EvidencePlan ℝ) (e : Evidence plan) (tally : Tally ℝ), 0 < e.cameraCount →
        e.AllCells (0 ≤ ·) →
          (e.focus tally).1.value ≤ (e.focus tally).2.evidencePeak ∧
            (e.focus tally).2.evidencePeak ≤ (e.focus tally).2.evidenceTotal := by
  constructor
  · intro cell value found ordered
    obtain ⟨first, greatest, right, sunk⟩ := exists_firstPeak found ordered
    rw [focus_fst]
    refine ⟨first, greatest, fun notSunken => ?_, fun sunken => ?_, ?_, fun notBelow => ?_⟩
    · exact congrArg plan.tiling.centerOf (right notSunken)
    · exact congrArg plan.tiling.centerOf (sunk sunken)
    · exact congrArg Focus.value (e.focus_fst tally)
    · have least := surface_nonneg notBelow found ordered
      exact ⟨not_sunken notBelow found ordered,
        Binary64.le_trans least (greatest.atMost cell value found ordered)⟩
  · intro plan e tally some nonneg
    have peak := (gauges_focus some tally).1.trans
      (congrArg (e.sum.fold Scalar.peakWith) Exact.zero_eq)
    have sum := (gauges_focus some tally).2.trans (congrArg (e.sum.fold (· + ·)) Exact.zero_eq)
    rw [focus_fst, peak, sum]
    exact ⟨peak_le_evidencePeak nonneg,
      Raster.fold_peakWith_le_sum fun cell value found => nonneg_of_sum nonneg found⟩

/-! ## A sunken surface and a level one -/

/-- The two cells of the yard with increments far below zero, where a cell counts as seen from -1 on. -/
def sunkenPlan : EvidencePlan Float :=
  { yard.evidencePlan with increment := -1e308, maskThreshold := -1 }

/-- The first camera sinks both cells, the others the first one only. -/
def sunkenRays : List (EvidenceCommand Float) :=
  [.trace "a" ⟨⟨0.125, 0.5⟩, ⟨1.875, 0.5⟩⟩, .trace "b" ⟨⟨0.125, 0.5⟩, ⟨0.875, 0.5⟩⟩,
    .trace "c" ⟨⟨0.125, 0.5⟩, ⟨0.875, 0.5⟩⟩]

/-- The second cell holds the greatest value there is, and the centre of the first one is reported. -/
theorem sunkenRays_misplace_focus : ∃ e, (none : Evidence sunkenPlan).performAll sunkenRays = .ok e ∧
    (∃ value, e.surface.value? ⟨0, 1⟩ = some value ∧ Scalar.Ordered value) ∧
    ∀ cell, FirstPeak e.surface cell (e.focus .zero).1.value →
      (e.focus .zero).1.position ≠ sunkenPlan.tiling.centerOf cell := by
  have checked : yields ((none : Evidence sunkenPlan).performAll sunkenRays) (fun e =>
      (∀ value ∈ e.surface.value? ⟨0, 0⟩, ¬ Scalar.Ordered value) ∧
        (∃ value ∈ e.surface.value? ⟨0, 1⟩, Scalar.Ordered value) ∧
        (e.focus .zero).1.position.x < (sunkenPlan.tiling.centerOf ⟨0, 1⟩).x) = true := by
    decide +kernel
  obtain ⟨e, done, checked⟩ := yields_iff.1 checked
  obtain ⟨blank, number, left⟩ := of_decide_eq_true checked
  refine ⟨e, done, number, ?_⟩
  rintro ⟨row, column⟩ greatest misplaced
  obtain ⟨⟨rowInside, columnInside⟩, _⟩ := Raster.value?_eq_some.1 greatest.held
  obtain rfl : row = 0 := Nat.lt_one_iff.1 rowInside
  obtain rfl | rfl : column = 0 ∨ column = 1 := Nat.le_one_iff_eq_zero_or_eq_one.1
    (Nat.lt_succ_iff.1 columnInside)
  · exact blank _ greatest.held greatest.ordered
  · rw [misplaced] at left
    exact Binary64.lt_irrefl _ left

/-- Both cameras see the first cell, and one of them the second. -/
def pairedRays : List (EvidenceCommand Float) :=
  [.trace "a" firstCellRay, .trace "b" firstCellRay, .trace "b" secondCellRay]

/-- A stroke of two samples in the first of two exact cells. -/
noncomputable def markedPair : Evidence exactPair :=
  (none : Evidence exactPair).addStroke "a" ⟨⟨1 / 2, 1 / 4⟩, ⟨0, 1 / 4⟩, 2⟩

theorem pairedRays_focus :
    (∃ e first, (none : Evidence yard.evidencePlan).performAll pairedRays = .ok e ∧
      FirstPeak e.surface first (e.focus .zero).1.value ∧
      (e.focus .zero).1.position = yard.evidencePlan.tiling.centerOf first ∧
      0 ≤ (e.focus .zero).1.value) ∧
    (markedPair.focus .zero).1.value ≤ (markedPair.focus .zero).2.evidencePeak ∧
      (markedPair.focus .zero).2.evidencePeak ≤ (markedPair.focus .zero).2.evidenceTotal := by
  have checked : yields ((none : Evidence yard.evidencePlan).performAll pairedRays) (fun e =>
      ∃ value ∈ e.surface.value? ⟨0, 0⟩, Scalar.Ordered value) = true := by
    decide +kernel
  obtain ⟨e, done, checked⟩ := yields_iff.1 checked
  obtain ⟨value, found, ordered⟩ := of_decide_eq_true checked
  have nonneg : e.AllCells (0 ≤ ·) :=
    cells_nonneg (by decide +kernel) (by decide +kernel) (by decide +kernel) done
  have notBelow : e.AllCells (¬ · < 0) := nonneg.imp fun value least below =>
    Binary64.lt_irrefl value (Binary64.lt_of_lt_of_le below least)
  obtain ⟨peaks, gauges⟩ := focus_is_first_peak e .zero
  obtain ⟨first, greatest, right, _, _, sound⟩ := peaks _ value found ordered
  obtain ⟨notSunken, least⟩ := sound notBelow
  refine ⟨⟨e, first, done, greatest, right notSunken, least⟩, ?_⟩
  have increment : 0 < exactPair.increment := by norm_num [exactPair]
  have marked : markedPair.AllCells (0 ≤ ·) := allCells_none.addStroke Exact.zero_eq.ge
    (fun value least => add_nonneg least increment.le) "a" _
  exact gauges exactPair markedPair .zero Nat.one_pos marked

end Evidence

end Sightline
