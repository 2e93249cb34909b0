import Sightline.Proofs.Evidence.Cells
import Sightline.Proofs.Evidence.Superposition

/-!
# Evidence fades

A decay multiplies every cell by a share of one.  No cell is below zero, so none grows: a layer that
is above the threshold afterwards was above it before, at whichever decay it falls below.  The
surface follows, and so does its peak.
-/

set_option autoImplicit false

namespace Sightline

/-- Two names with values that pass a check are two values that pass it. -/
theorem Directory.one_lt_countP {β : Type} (directory : Directory β) {p : β → Bool}
    {first second : String} {a b : β} (apart : first ≠ second)
    (firstFiled : directory.get? first = some a) (secondFiled : directory.get? second = some b)
    (firstPasses : p a = true) (secondPasses : p b = true) :
    1 < directory.values.countP p := by
  rw [values, List.countP_map, List.countP_eq_length_filter]
  have firstMember : (first, a) ∈ directory.entries.filter (p ∘ (·.2)) :=
    List.mem_filter.2 ⟨Directory.mem_of_get? firstFiled, firstPasses⟩
  have secondMember : (second, b) ∈ directory.entries.filter (p ∘ (·.2)) :=
    List.mem_filter.2 ⟨Directory.mem_of_get? secondFiled, secondPasses⟩
  generalize directory.entries.filter (p ∘ (·.2)) = entries at firstMember secondMember
  cases entries with
  | nil => cases firstMember
  | cons entry others =>
      cases others with
      | nil =>
          rw [List.mem_singleton] at firstMember secondMember
          exact absurd (congrArg Prod.fst (firstMember.trans secondMember.symm)) apart
      | cons next rest => simp

namespace Evidence

/-- More than one layer is above the threshold in a cell. -/
def Salient {α : Type} [Scalar α] {plan : EvidencePlan α} (e : Evidence plan) (cell : Cell)
    (inside : Raster.Holds plan.tiling.rows plan.tiling.columns cell) : Prop :=
  1 < e.layers.values.countP (supports cell inside)

instance {α : Type} [Scalar α] {plan : EvidencePlan α} (e : Evidence plan) (cell : Cell)
    (inside : Raster.Holds plan.tiling.rows plan.tiling.columns cell) :
    Decidable (e.Salient cell inside) :=
  inferInstanceAs (Decidable (_ < _))

theorem not_salient_of_no_layers {α : Type} [Scalar α] {plan : EvidencePlan α} {e : Evidence plan}
    {cell : Cell} {inside : Raster.Holds plan.tiling.rows plan.tiling.columns cell}
    (blank : e.layers.entries = []) : ¬ e.Salient cell inside := by
  simp [Salient, Directory.values, blank]

theorem AllCells.of_values {α : Type} [Scalar α] {plan : EvidencePlan α} {e : Evidence plan}
    {P : α → Prop} (all : e.AllCells P) {layer : plan.Layer} (member : layer ∈ e.layers.values)
    (cell : Cell) (inside : Raster.Holds plan.tiling.rows plan.tiling.columns cell) :
    P (layer.value cell inside) := by
  obtain ⟨entry, filed, rfl⟩ := List.mem_map.1 member
  exact all entry.1 entry.2 (e.layers.get?_of_mem filed) cell inside

/-- Nothing of the later surface stands out above the earlier one. -/
structure Fades {plan : EvidencePlan ℝ} (before after : Evidence plan) : Prop where
  salient : ∀ cell inside, after.Salient cell inside → before.Salient cell inside
  surface : ∀ cell inside, after.surface.value cell inside ≤ before.surface.value cell inside

variable {plan : EvidencePlan ℝ} {e middle after : Evidence plan} {cell : Cell}
  {inside : Raster.Holds plan.tiling.rows plan.tiling.columns cell}

theorem Fades.refl (e : Evidence plan) : e.Fades e :=
  ⟨fun _ _ salient => salient, fun _ _ => le_refl _⟩

theorem Fades.trans (first : e.Fades middle) (second : middle.Fades after) : e.Fades after :=
  ⟨fun cell inside salient => first.salient cell inside (second.salient cell inside salient),
    fun cell inside => (second.surface cell inside).trans (first.surface cell inside)⟩

/-! ## The sum and the layers of a decay -/

theorem values_decay :
    e.decay.layers.values = e.layers.values.map fun layer => layer.map (· * plan.retention) := by
  simp [decay, Directory.map, Directory.values]

theorem total_eq_sum (e : Evidence plan) (cell : Cell)
    (inside : Raster.Holds plan.tiling.rows plan.tiling.columns cell) :
    e.total cell inside = (e.layers.values.map (·.value cell inside)).sum := by
  have zero : ((0 : ℕ) : ℝ) = 0 := Nat.cast_zero
  rw [List.sum_eq_foldl, List.foldl_map, ← zero]
  rfl

theorem total_nonneg (all : e.AllCells (0 ≤ ·)) : 0 ≤ e.total cell inside := by
  rw [total_eq_sum]
  apply List.sum_nonneg
  intro value member
  obtain ⟨layer, filed, rfl⟩ := List.mem_map.1 member
  exact all.of_values filed cell inside

theorem total_decay : e.decay.total cell inside = e.total cell inside * plan.retention := by
  rw [total_eq_sum, total_eq_sum, values_decay, List.map_map, ← List.sum_map_mul_right]
  congr 1
  apply List.map_congr_left
  intro layer _
  exact Raster.value_map _ _ _ _

/-- A cell of the surface shows the sum where it is salient, and zero elsewhere. -/
theorem value_surface (e : Evidence plan) (cell : Cell)
    (inside : Raster.Holds plan.tiling.rows plan.tiling.columns cell) :
    e.surface.value cell inside = if e.Salient cell inside then e.total cell inside else 0 := by
  have zero : ((0 : ℕ) : ℝ) = 0 := Nat.cast_zero
  have one : ((1 : ℕ) : ℝ) = 1 := Nat.cast_one
  by_cases blank : e.layers.entries = []
  · rw [if_neg (not_salient_of_no_layers blank), surface_of_no_layers blank, Raster.value_fill]
    exact zero
  · rw [value_surface_weighed blank, weight]
    by_cases salient : e.Salient cell inside
    · have supported : 1 < e.layers.values.countP (supports cell inside) := salient
      rw [if_pos supported, if_pos salient]
      exact (congrArg (e.total cell inside * ·) one).trans (mul_one _)
    · have unsupported : ¬ 1 < e.layers.values.countP (supports cell inside) := salient
      rw [if_neg unsupported, if_neg salient]
      exact (congrArg (e.total cell inside * ·) zero).trans (mul_zero _)

/-! ## A decay -/

theorem le_of_faded {value : ℝ} (nonneg : 0 ≤ value) (atMost : plan.retention ≤ 1) :
    value * plan.retention ≤ value :=
  mul_le_of_le_one_right nonneg atMost

theorem salient_of_decay (all : e.AllCells (0 ≤ ·)) (atMost : plan.retention ≤ 1)
    (salient : e.decay.Salient cell inside) : e.Salient cell inside := by
  refine lt_of_lt_of_le salient ?_
  rw [values_decay, List.countP_map]
  apply List.countP_mono_left
  intro layer member above
  have faded : (layer.map (· * plan.retention)).value cell inside ≤ layer.value cell inside := by
    rw [Raster.value_map]
    exact le_of_faded (all.of_values member cell inside) atMost
  exact decide_eq_true ((of_decide_eq_true above).trans_le faded)

theorem fades_decay (all : e.AllCells (0 ≤ ·)) (atMost : plan.retention ≤ 1) : e.Fades e.decay := by
  refine ⟨fun cell inside => salient_of_decay all atMost, fun cell inside => ?_⟩
  have nonneg : 0 ≤ e.total cell inside := total_nonneg all
  rw [value_surface, value_surface, total_decay]
  by_cases still : e.decay.Salient cell inside
  · rw [if_pos still, if_pos (salient_of_decay all atMost still)]
    exact le_of_faded nonneg atMost
  · rw [if_neg still]
    split
    · exact nonneg
    · exact le_refl 0

/-! ## Peaks -/

theorem peak_le_peak {rows columns : Nat} {lower upper : Raster ℝ rows columns}
    (below : ∀ cell inside, lower.value cell inside ≤ upper.value cell inside) :
    (peak lower).2 ≤ (peak upper).2 := by
  rcases peak_best lower with ⟨none, _⟩ | ⟨inside, value, _, _, _⟩
  · rw [none]
    rcases peak_best upper with ⟨none, _⟩ | ⟨_, _, above, _, _⟩
    · rw [none]
    · exact above.le
  · have notAbove := (peak_best upper).notBelow inside (.inl inside.1)
    calc (peak lower).2 = lower.value (peak lower).1 inside := value
      _ ≤ upper.value (peak lower).1 inside := below _ inside
      _ ≤ (peak upper).2 := not_lt.1 notAbove

theorem Fades.brightest (fades : e.Fades after) : after.brightest.value ≤ e.brightest.value :=
  peak_le_peak fades.surface

/-- Whatever is done to a grid in exact arithmetic, no cell is below zero. -/
theorem exact_cells_nonneg (increment : 0 < plan.increment) (retention : 0 < plan.retention)
    {commands : List (EvidenceCommand ℝ)} (done : none.performAll commands = .ok after) :
    after.AllCells (0 ≤ ·) := by
  have zero : ((0 : ℕ) : ℝ) = 0 := Nat.cast_zero
  refine allCells_none.performAll zero.ge ?_ ?_ done
  · intro value nonneg
    exact add_nonneg nonneg increment.le
  · intro value nonneg
    exact mul_nonneg nonneg retention.le

/-- A camera with a hit is above the threshold if a single increment is. -/
theorem Gathers.exists_supports {rays : List (String × Segment ℝ)} (gathers : none.Gathers e rays)
    (inside : Raster.Holds plan.tiling.rows plan.tiling.columns cell)
    (increment : 0 < plan.increment) (above : plan.maskThreshold < plan.increment)
    {camera : String} (hit : 0 < plan.hits rays camera cell) :
    ∃ layer, e.layer? camera = some layer ∧ supports cell inside layer = true := by
  have most : plan.increment ≤ e.level camera cell inside := by
    rw [gathers.levels, iterate_add, level_none, zero_add]
    exact le_mul_of_one_le_right increment.le (by exact_mod_cast hit)
  unfold level at most
  split at most
  · rename_i layer filed
    exact ⟨layer, filed, decide_eq_true (above.trans_le most)⟩
  · have zero : ((0 : ℕ) : ℝ) = 0 := Nat.cast_zero
    exact absurd (most.trans zero.le) (not_le.2 increment)

end Evidence

end Sightline
