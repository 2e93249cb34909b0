import Sightline.Evidence.Command
import Sightline.Proofs.Raster.Scan

/-!
# Where a surface shows

Each cell of the surface is the sum over all cameras where at least two of them are above the
threshold, and nothing elsewhere; so what shows is corroborated.
-/

set_option autoImplicit false

namespace Sightline

/-- Of entries in the order of their names, two that pass a check have different names. -/
theorem Directory.exists_two_of_countP {β : Type} (directory : Directory β) {p : β → Bool}
    (two : 1 < directory.values.countP p) :
    ∃ first second a b, first ≠ second ∧ directory.get? first = some a ∧
      directory.get? second = some b ∧ p a = true ∧ p b = true := by
  rw [values, List.countP_map, List.countP_eq_length_filter] at two
  have ascending := directory.ascending.filter (p ∘ (·.2))
  have passing : ∀ entry ∈ directory.entries.filter (p ∘ (·.2)),
      directory.get? entry.1 = some entry.2 ∧ p entry.2 = true := by
    intro entry member
    obtain ⟨member, passes⟩ := List.mem_filter.1 member
    exact ⟨directory.get?_of_mem member, passes⟩
  generalize directory.entries.filter (p ∘ (·.2)) = entries at two ascending passing
  cases entries with
  | nil => simp at two
  | cons first rest =>
      cases rest with
      | nil => simp at two
      | cons second others =>
          have before := (List.pairwise_cons.1 ascending).1 second (by simp)
          obtain ⟨firstFiled, firstPasses⟩ := passing first (by simp)
          obtain ⟨secondFiled, secondPasses⟩ := passing second (by simp)
          exact ⟨first.1, second.1, first.2, second.2,
            fun same => String.lt_irrefl _ (same ▸ before), firstFiled, secondFiled, firstPasses,
            secondPasses⟩

namespace Raster

variable {α β γ : Type} {rows columns : Nat}

theorem value_foldl_zipWith (f : γ → α → γ) (layers : List (Raster α rows columns))
    (start : Raster γ rows columns) (cell : Cell) (inside : Holds rows columns cell) :
    (layers.foldl (fun gathered layer => gathered.zipWith f layer) start).value cell inside =
      layers.foldl (fun gathered layer => f gathered (layer.value cell inside))
        (start.value cell inside) := by
  induction layers generalizing start with
  | nil => rfl
  | cons layer rest ih => rw [List.foldl_cons, ih, value_zipWith, List.foldl_cons]

end Raster

namespace Evidence

variable {α : Type} [Scalar α] {plan : EvidencePlan α} (e : Evidence plan) (cell : Cell)
  (inside : Raster.Holds plan.tiling.rows plan.tiling.columns cell)

def total : α := e.layers.values.foldl (fun sum layer => sum + layer.value cell inside) 0

def supports (layer : plan.Layer) : Bool := decide (plan.maskThreshold < layer.value cell inside)

theorem value_sum : e.sum.value cell inside = e.total cell inside := by
  rw [sum, Raster.value_foldl_zipWith, Raster.value_fill]
  rfl

theorem foldl_support (layers : List plan.Layer) (n : Nat) :
    layers.foldl (fun n layer => if plan.maskThreshold < layer.value cell inside then n + 1 else n) n =
      n + layers.countP (supports cell inside) := by
  induction layers generalizing n with
  | nil => rfl
  | cons layer rest ih =>
      rw [List.foldl_cons, ih, List.countP_cons]
      by_cases above : plan.maskThreshold < layer.value cell inside
      · simp only [supports, above, if_true, decide_true]
        omega
      · simp [supports, above]

theorem value_support :
    e.support.value cell inside = e.layers.values.countP (supports cell inside) := by
  rw [support, Raster.value_foldl_zipWith
    (fun n value => if plan.maskThreshold < value then n + 1 else n), Raster.value_fill,
    foldl_support, Nat.zero_add]

variable {e cell inside}

theorem surface_of_no_layers (blank : e.layers.entries = []) : e.surface = .fill _ _ 0 := by
  rw [surface, if_pos (List.isEmpty_iff.2 blank)]

theorem value_surface_weighed (filled : e.layers.entries ≠ []) :
    e.surface.value cell inside =
      e.total cell inside * weight (e.layers.values.countP (supports cell inside)) := by
  rw [surface, if_neg (mt List.isEmpty_iff.1 filled), masked, Raster.value_zipWith, value_sum,
    value_support]

/-- What two cameras have seen, and where: a cell whose sum reaches a threshold, is what the focus
reports, is exceeded nowhere on the surface and reached by no earlier cell. -/
structure Corroborated (e : Evidence plan) (maskThreshold threshold : α) (cell : Cell)
    (inside : Raster.Holds plan.tiling.rows plan.tiling.columns cell) : Prop where
  cameras : ∃ first second a b, first ≠ second ∧ e.layer? first = some a ∧
    e.layer? second = some b ∧ maskThreshold < a.value cell inside ∧
    maskThreshold < b.value cell inside
  reaches : threshold ≤ e.total cell inside
  reported : e.brightest.value = e.total cell inside
  placed : e.brightest.position = plan.tiling.centerOf cell
  greatest : ∀ (other : Cell) (otherInside : Raster.Holds plan.tiling.rows plan.tiling.columns other),
    ¬ e.brightest.value < e.surface.value other otherInside
  first : ∀ (other : Cell) (otherInside : Raster.Holds plan.tiling.rows plan.tiling.columns other),
    other.Before cell.row cell.column → ¬ e.brightest.value ≤ e.surface.value other otherInside

section Surface

variable [LawfulScalar α]

/-- What shows in a cell of the surface is the sum there, and two cameras support it. -/
theorem of_surface_pos (shows : 0 < e.surface.value cell inside) :
    e.surface.value cell inside = e.total cell inside ∧
      1 < e.layers.values.countP (supports cell inside) := by
  by_cases blank : e.layers.entries = []
  · rw [surface_of_no_layers blank, Raster.value_fill] at shows
    exact absurd shows (LawfulScalar.lt_irrefl _)
  · rw [value_surface_weighed blank, weight] at shows ⊢
    split at shows
    · rename_i supported
      rw [if_pos supported]
      exact ⟨LawfulScalar.mul_one _, supported⟩
    · exact absurd shows (LawfulScalar.not_pos_mul_zero _)

theorem corroborated_of_reaches {threshold : α} (positive : 0 < threshold)
    (reaches : threshold ≤ e.brightest.value) :
    ∃ cell inside, e.Corroborated plan.maskThreshold threshold cell inside := by
  have shows := LawfulScalar.pos_of_reaches positive reaches
  have above : (peak e.surface).2 ≠ Scalar.lowest := by
    intro lowest
    change 0 < (peak e.surface).2 at shows
    rw [lowest] at shows
    exact LawfulScalar.not_pos_lowest shows
  obtain ⟨inside, value, greatest, first⟩ := peak_spec e.surface above
  have brightest : e.brightest.value = e.surface.value (peak e.surface).1 inside := value
  rw [brightest] at shows
  obtain ⟨sum, supported⟩ := of_surface_pos shows
  refine ⟨(peak e.surface).1, inside, ?_, ?_, ?_, rfl, greatest, first⟩
  · obtain ⟨one, two, a, b, apart, oneFiled, twoFiled, oneAbove, twoAbove⟩ :=
      e.layers.exists_two_of_countP supported
    exact ⟨one, two, a, b, apart, oneFiled, twoFiled, of_decide_eq_true oneAbove,
      of_decide_eq_true twoAbove⟩
  · rw [← sum, ← brightest]
    exact reaches
  · rw [brightest, sum]

end Surface

/-! ## One camera -/

def OnlyFrom (camera : String) (e : Evidence plan) : Prop :=
  ∀ entry ∈ e.layers.entries, entry.1 = camera

theorem perform_trace_cases {name : String} {ray : Segment α} {after : Evidence plan}
    (done : e.perform (.trace name ray) = .ok after) :
    after = e ∨ ∃ stroke, after = e.addStroke name stroke := by
  simp only [perform, bind_eq_ok] at done
  obtain ⟨traced, tracing, result⟩ := done
  cases traced with
  | error fault =>
      cases result
      exact .inl rfl
  | ok evidence =>
      cases result
      rw [trace] at tracing
      split at tracing
      · cases tracing
      · simp only [bind_eq_ok, addRay] at tracing
        obtain ⟨_, ⟨stroke?, _, added⟩, result⟩ := tracing
        cases result
        cases stroke? with
        | none =>
            cases added
            exact .inl rfl
        | some stroke =>
            cases added
            exact .inr ⟨stroke, rfl⟩

theorem onlyFrom_perform {camera : String} {after : Evidence plan} {command : EvidenceCommand α}
    (only : e.OnlyFrom camera) (own : ∀ name ray, command = .trace name ray → name = camera)
    (done : e.perform command = .ok after) : after.OnlyFrom camera := by
  cases command with
  | decay =>
      cases done
      intro entry member
      obtain ⟨before, beforeMember, rfl⟩ := List.mem_map.1 member
      exact only before beforeMember
  | trace name ray =>
      have same := own name ray rfl
      subst same
      rcases perform_trace_cases done with rfl | ⟨stroke, rfl⟩
      · exact only
      · intro entry member
        rcases Directory.mem_place member with named | before
        · exact named
        · exact only entry before

theorem onlyFrom_performAll {camera : String} {after : Evidence plan}
    {commands : List (EvidenceCommand α)} (only : e.OnlyFrom camera)
    (own : ∀ name ray, .trace name ray ∈ commands → name = camera)
    (done : e.performAll commands = .ok after) : after.OnlyFrom camera := by
  induction commands generalizing e with
  | nil =>
      cases done
      exact only
  | cons command rest ih =>
      simp only [performAll, bind_eq_ok] at done
      obtain ⟨next, one, later⟩ := done
      have still := onlyFrom_perform only (fun name ray same => own name ray (by simp [same])) one
      exact ih still (fun name ray member => own name ray (List.mem_cons_of_mem _ member)) later

theorem not_corroborated_of_onlyFrom {camera : String} {maskThreshold threshold : α}
    (only : e.OnlyFrom camera) : ¬ e.Corroborated maskThreshold threshold cell inside := by
  intro corroborated
  obtain ⟨first, second, a, b, apart, firstFiled, secondFiled, _, _⟩ := corroborated.cameras
  have firstName := only (first, a) (Directory.mem_of_get? firstFiled)
  have secondName := only (second, b) (Directory.mem_of_get? secondFiled)
  exact apart (firstName.trans secondName.symm)

end Evidence

end Sightline
