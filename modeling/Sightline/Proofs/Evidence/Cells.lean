import Sightline.Proofs.Evidence.Levels
import Sightline.Proofs.Evidence.Saliency
import Sightline.Proofs.Scalar.Sizes

/-!
# What holds of all cells

A property of numbers that holds of nought and is kept by adding the increment and by fading holds of
every cell, whatever is done to a grid.  Not to be below zero is such a property, and so in binary64 no
cell ever leaves the order.
-/

set_option autoImplicit false

namespace Sightline

namespace Evidence

section Cells

variable {α : Type} [Scalar α] {plan : EvidencePlan α} {e after : Evidence plan} {P : α → Prop}

def AllCells (P : α → Prop) (e : Evidence plan) : Prop :=
  ∀ camera layer, e.layer? camera = some layer →
    ∀ (cell : Cell) (inside : Raster.Holds plan.tiling.rows plan.tiling.columns cell),
      P (layer.value cell inside)

theorem allCells_none : AllCells P (none : Evidence plan) := by
  intro camera layer filed
  cases filed

theorem AllCells.imp {Q : α → Prop} (all : e.AllCells P) (weaker : ∀ value, P value → Q value) :
    e.AllCells Q :=
  fun camera layer filed cell inside => weaker _ (all camera layer filed cell inside)

theorem AllCells.addStroke (all : e.AllCells P) (start : P 0)
    (kept : ∀ value, P value → P (value + plan.increment)) (name : String) (stroke : Stroke α) :
    (e.addStroke name stroke).AllCells P := by
  intro camera layer filed cell inside
  by_cases own : camera = name
  · subst own
    have before : P (((e.layer? camera).getD (.fill _ _ 0)).value cell inside) := by
      cases found : e.layer? camera with
      | none => rwa [Option.getD_none, Raster.value_fill]
      | some layer => exact all camera layer found cell inside
    rw [e.layer?_addStroke_self, Option.some.injEq] at filed
    rw [← filed, Stroke.value_mark]
    generalize stroke.hits plan.tiling cell = hits
    induction hits with
    | zero => exact before
    | succ hits ih =>
        rw [Function.iterate_succ_apply']
        exact kept _ ih
  · rw [e.layer?_addStroke_of_ne own] at filed
    exact all camera layer filed cell inside

theorem AllCells.decay (all : e.AllCells P)
    (kept : ∀ value, P value → P (value * plan.retention)) : e.decay.AllCells P := by
  intro camera layer filed cell inside
  rw [e.layer?_decay, Option.map_eq_some_iff] at filed
  obtain ⟨before, found, rfl⟩ := filed
  rw [Raster.value_map]
  exact kept _ (all camera before found cell inside)

theorem AllCells.performAll (all : e.AllCells P) (start : P 0)
    (added : ∀ value, P value → P (value + plan.increment))
    (faded : ∀ value, P value → P (value * plan.retention)) {commands : List (EvidenceCommand α)}
    (done : e.performAll commands = .ok after) : after.AllCells P := by
  induction commands generalizing e with
  | nil =>
      cases done
      exact all
  | cons command rest ih =>
      simp only [Evidence.performAll, bind_eq_ok] at done
      obtain ⟨next, one, later⟩ := done
      refine ih ?_ later
      cases command with
      | decay =>
          cases one
          exact all.decay faded
      | trace name ray =>
          rcases perform_trace_cases one with rfl | ⟨stroke, rfl⟩
          · exact all
          · exact all.addStroke start added name stroke

end Cells

/-- No cell of a grid is ever below zero or outside the order. -/
theorem cells_nonneg {plan : EvidencePlan Float} {after : Evidence plan}
    {commands : List (EvidenceCommand Float)}
    (increment : Scalar.isPositive plan.increment = true)
    (positive : 0 < plan.retention) (atMost : plan.retention ≤ 1)
    (done : none.performAll commands = .ok after) : after.AllCells (0 ≤ ·) := by
  obtain ⟨increment, _⟩ := Bool.and_eq_true_iff.1 increment
  refine allCells_none.performAll ?_ ?_ ?_ done
  · exact Binary64.le_refl_of_finite Binary64.zero_finite
  · intro value nonneg
    exact Binary64.add_nonneg nonneg (Binary64.le_of_lt (of_decide_eq_true increment))
  · intro value nonneg
    exact Binary64.mul_nonneg nonneg positive
      (StrictScalar.finite_of_unit (Binary64.le_of_lt positive) atMost)

end Evidence

end Sightline
