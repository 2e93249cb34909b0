import Mathlib.Tactic.Linarith
import Sightline.Proofs.Evidence.Levels
import Sightline.Proofs.Scalar.Exact

/-!
# Evidence superposes

In exact arithmetic every ray finds room inside the rectangle, and what a camera has gathered in a
cell is a sum over its rays: each counts the increment once for every sample in the cell, faded by
all the decays that came after it.
-/

set_option autoImplicit false

namespace Sightline

/-! ## Rays find room -/

namespace Tiling

variable (t : Tiling ℝ)

/-- The length of a ray inside the rectangle reaches a sampling step. -/
def Reaches (ray : Segment ℝ) : Prop :=
  ∃ inside, t.clampEnds ray = .ok inside ∧ t.samplingStep ≤ inside.along.norm

theorem width_pos : 0 < t.bounds.maxX - t.bounds.minX ∧ 0 < t.bounds.maxY - t.bounds.minY := by
  have fits := t.isOpen
  simp only [Bounds.isOpen, Bool.and_eq_true, decide_eq_true_eq] at fits
  exact ⟨sub_pos.2 fits.1, sub_pos.2 fits.2⟩

theorem cellSize_le : t.cellSize.x ≤ t.bounds.maxX - t.bounds.minX ∧
    t.cellSize.y ≤ t.bounds.maxY - t.bounds.minY := by
  obtain ⟨across, up⟩ := t.width_pos
  have columns : (1 : ℝ) ≤ t.columns := by exact_mod_cast t.columns_pos
  have rows : (1 : ℝ) ≤ t.rows := by exact_mod_cast t.rows_pos
  exact ⟨div_le_self across.le columns, div_le_self up.le rows⟩

theorem samplingStep_eq :
    t.samplingStep = Scalar.lesser t.cellSize.x t.cellSize.y / 4 := rfl

theorem hasRoom : t.HasRoom := by
  obtain ⟨width, height⟩ := t.width_pos
  obtain ⟨columnSize, rowSize⟩ := t.cellSize_le
  have across := (min_le_left t.cellSize.x t.cellSize.y).trans columnSize
  have up := (min_le_right t.cellSize.x t.cellSize.y).trans rowSize
  constructor
  · rw [samplingStep_eq, Exact.lesser_eq_min]
    linarith
  · rw [samplingStep_eq, Exact.lesser_eq_min]
    linarith

theorem hold_of_mem {low high value : ℝ} (above : low ≤ value) (below : value ≤ high) :
    hold low high value = .ok value := by
  unfold hold
  rw [if_pos (above.trans below), if_neg (not_lt.2 above), if_neg (not_lt.2 below)]

theorem clamp_of_inside {margin : ℝ} {p : Point ℝ} (left : t.bounds.minX ≤ p.x)
    (right : p.x ≤ t.bounds.maxX - margin) (bottom : t.bounds.minY ≤ p.y)
    (top : p.y ≤ t.bounds.maxY - margin) : t.clamp margin p = .ok p := by
  rw [clamp, hold_of_mem left right, hold_of_mem bottom top]
  rfl

theorem isSome_strokeOf? (ray : Segment ℝ) : (t.strokeOf? ray).isSome ↔ t.Reaches ray := by
  obtain ⟨inside, clamped⟩ := t.hasRoom.exists_clampEnds ray
  have drawn : t.strokeOf? ray = t.strokeAlong inside := by
    simp only [strokeOf?, stroke_of_clampEnds clamped]
    rfl
  have reaches : t.Reaches ray ↔ t.samplingStep ≤ inside.along.norm := by
    constructor
    · rintro ⟨other, same, long⟩
      rw [clamped] at same
      cases same
      exact long
    · intro long
      exact ⟨inside, clamped, long⟩
  rw [drawn, reaches, strokeAlong]
  split
  · rename_i short
    simpa using short
  · rename_i long
    simpa using long

end Tiling

/-! ## Histories -/

def EvidenceCommand.decays {α : Type} (history : List (EvidenceCommand α)) : ℕ :=
  history.countP fun
    | .decay => true
    | .trace .. => false

/-- How many samples of a ray fall into a cell. -/
def EvidencePlan.hitsOf {α : Type} [Scalar α] (plan : EvidencePlan α) (ray : Segment α)
    (cell : Cell) : ℕ :=
  ((plan.tiling.strokeOf? ray).map (·.hits plan.tiling cell)).getD 0

namespace EvidencePlan

variable (plan : EvidencePlan ℝ)

/-- What the first ray of a history leaves in a cell for a camera, faded by the decays after it. -/
noncomputable def share (camera : String) (cell : Cell) : List (EvidenceCommand ℝ) → ℝ
  | .trace name ray :: later =>
    if name = camera then
      plan.increment * plan.hitsOf ray cell * plan.retention ^ EvidenceCommand.decays later
    else 0
  | _ => 0

/-- The sum of what all rays of a history leave in a cell for a camera. -/
noncomputable def superposed (camera : String) (cell : Cell) (history : List (EvidenceCommand ℝ)) :
    ℝ :=
  (history.tails.map (plan.share camera cell)).sum

/-- One of the rays of a camera is long enough to leave a stroke. -/
def Marked (camera : String) (history : List (EvidenceCommand ℝ)) : Prop :=
  ∃ ray, .trace camera ray ∈ history ∧ plan.tiling.Reaches ray

theorem superposed_nil (camera : String) (cell : Cell) : plan.superposed camera cell [] = 0 := by
  simp [superposed, share]

theorem superposed_cons (camera : String) (cell : Cell) (command : EvidenceCommand ℝ)
    (later : List (EvidenceCommand ℝ)) :
    plan.superposed camera cell (command :: later) =
      plan.share camera cell (command :: later) + plan.superposed camera cell later := by
  simp [superposed]

theorem share_nonneg (increment : 0 < plan.increment) (retention : 0 < plan.retention)
    (camera : String) (cell : Cell) (history : List (EvidenceCommand ℝ)) :
    0 ≤ plan.share camera cell history := by
  unfold share
  split
  · split
    · positivity
    · exact le_refl _
  · exact le_refl _

theorem superposed_nonneg (increment : 0 < plan.increment) (retention : 0 < plan.retention)
    (camera : String) (cell : Cell) (history : List (EvidenceCommand ℝ)) :
    0 ≤ plan.superposed camera cell history := by
  apply List.sum_nonneg
  intro part member
  obtain ⟨tail, _, rfl⟩ := List.mem_map.1 member
  exact plan.share_nonneg increment retention camera cell tail

end EvidencePlan

namespace Evidence

variable {plan : EvidencePlan ℝ} {e after : Evidence plan}

theorem iterate_add (increment value : ℝ) (n : ℕ) :
    (· + increment)^[n] value = value + increment * n := by
  rw [add_right_iterate_apply, nsmul_eq_mul, mul_comm]

theorem level_decay (camera : String) (cell : Cell)
    (inside : Raster.Holds plan.tiling.rows plan.tiling.columns cell) :
    e.decay.level camera cell inside = e.level camera cell inside * plan.retention := by
  unfold level
  rw [layer?_decay]
  cases e.layer? camera with
  | none =>
      change ((0 : ℕ) : ℝ) = ((0 : ℕ) : ℝ) * plan.retention
      rw [Nat.cast_zero, zero_mul]
  | some layer => exact Raster.value_map _ _ _ _

theorem level_none (camera : String) (cell : Cell)
    (inside : Raster.Holds plan.tiling.rows plan.tiling.columns cell) :
    (none : Evidence plan).level camera cell inside = 0 :=
  Nat.cast_zero

/-- What a history adds to evidence. -/
structure Superposes (e after : Evidence plan) (history : List (EvidenceCommand ℝ)) : Prop where
  cameras : ∀ camera, (after.layer? camera).isSome ↔
    (e.layer? camera).isSome ∨ plan.Marked camera history
  levels : ∀ camera cell inside,
    after.level camera cell inside =
      e.level camera cell inside * plan.retention ^ EvidenceCommand.decays history +
        plan.superposed camera cell history

theorem superposes_nil : e.Superposes e [] := by
  refine ⟨fun camera => ?_, fun camera cell inside => ?_⟩
  · simp [EvidencePlan.Marked]
  · simp [EvidenceCommand.decays, EvidencePlan.superposed_nil]

theorem superposes_decay {later : List (EvidenceCommand ℝ)}
    (rest : e.decay.Superposes after later) : e.Superposes after (.decay :: later) := by
  refine ⟨fun camera => ?_, fun camera cell inside => ?_⟩
  · rw [rest.cameras, layer?_decay, Option.isSome_map]
    simp [EvidencePlan.Marked]
  · have count : EvidenceCommand.decays (.decay :: later) = EvidenceCommand.decays later + 1 := by
      simp [EvidenceCommand.decays]
    rw [rest.levels, level_decay, count, EvidencePlan.superposed_cons, EvidencePlan.share]
    · ring
    · intro name ray later same
      cases same

theorem superposes_trace {middle : Evidence plan} {name : String} {ray : Segment ℝ}
    {later : List (EvidenceCommand ℝ)} (first : e.Gathers middle [(name, ray)])
    (rest : middle.Superposes after later) : e.Superposes after (.trace name ray :: later) := by
  refine ⟨fun camera => ?_, fun camera cell inside => ?_⟩
  · have marks : plan.marks [(name, ray)] camera = true ↔
        name = camera ∧ plan.tiling.Reaches ray := by
      simp [EvidencePlan.marks, ← Tiling.isSome_strokeOf?]
    rw [rest.cameras, first.cameras, Bool.or_eq_true, marks, or_assoc]
    apply or_congr_right
    constructor
    · rintro (⟨rfl, reaches⟩ | ⟨other, member, reaches⟩)
      · exact ⟨ray, List.mem_cons_self, reaches⟩
      · exact ⟨other, List.mem_cons_of_mem _ member, reaches⟩
    · rintro ⟨other, member, reaches⟩
      rcases List.mem_cons.1 member with same | member
      · cases same
        exact .inl ⟨rfl, reaches⟩
      · exact .inr ⟨other, member, reaches⟩
  · have count : EvidenceCommand.decays (.trace name ray :: later) =
        EvidenceCommand.decays later := by
      simp [EvidenceCommand.decays]
    have gathered : middle.level camera cell inside = e.level camera cell inside +
        if name = camera then plan.increment * plan.hitsOf ray cell else 0 := by
      have hits : plan.hits [(name, ray)] camera cell =
          if name = camera then plan.hitsOf ray cell else 0 := by
        simp [EvidencePlan.hits, EvidencePlan.hitsOf]
      rw [first.levels, hits]
      refine (iterate_add _ _ _).trans ?_
      split
      · rfl
      · simp
    rw [rest.levels, gathered, count, EvidencePlan.superposed_cons, EvidencePlan.share]
    split
    · ring
    · ring

theorem performAll_superposes (e : Evidence plan) (history : List (EvidenceCommand ℝ)) :
    ∃ after, e.performAll history = .ok after ∧ e.Superposes after history := by
  induction history generalizing e with
  | nil => exact ⟨e, rfl, superposes_nil⟩
  | cons command later ih =>
      cases command with
      | decay =>
          obtain ⟨after, done, rest⟩ := ih e.decay
          exact ⟨after, done, superposes_decay rest⟩
      | trace name ray =>
          have room := plan.tiling.hasRoom.not_blocks ray
          obtain ⟨middle, one, first⟩ := e.perform_trace_of_open name room
          obtain ⟨after, done, rest⟩ := ih middle
          refine ⟨after, ?_, superposes_trace first rest⟩
          change (e.perform (.trace name ray) >>= _) = _
          rw [one]
          exact done

theorem layer?_perform_trace {name camera : String} {ray : Segment ℝ}
    (done : e.perform (.trace name ray) = .ok after) (other : camera ≠ name) :
    after.layer? camera = e.layer? camera := by
  rw [perform_trace_of_finite rfl, addRay, bind_eq_ok] at done
  obtain ⟨stroke?, _, marked⟩ := done
  cases stroke? with
  | none =>
      cases marked
      rfl
  | some stroke =>
      cases marked
      exact e.layer?_addStroke_of_ne other stroke

/-- A history of rays and decays never aborts.  Afterwards a camera has a layer exactly if one of
its rays was long enough, each cell of it holds the sum of what the rays of the camera left there,
and no further step takes a layer away or touches the layer of another camera. -/
theorem history_superposes (increment : 0 < plan.increment) (retention : 0 < plan.retention)
    (history : List (EvidenceCommand ℝ)) :
    ∃ after, (none : Evidence plan).performAll history = .ok after ∧
      (∀ camera, (after.layer? camera).isSome ↔ plan.Marked camera history) ∧
      (∀ camera layer, after.layer? camera = some layer →
        ∀ cell inside, layer.value cell inside = plan.superposed camera cell history ∧
          0 ≤ layer.value cell inside) ∧
      ∀ command next, after.perform command = .ok next →
        (∀ camera, (after.layer? camera).isSome → (next.layer? camera).isSome) ∧
          ∀ name ray, command = .trace name ray →
            ∀ camera, camera ≠ name → next.layer? camera = after.layer? camera := by
  obtain ⟨after, done, all⟩ := performAll_superposes (none : Evidence plan) history
  refine ⟨after, done, fun camera => ?_, fun camera layer found cell inside => ?_,
    fun command next one => ⟨fun camera filed => ?_, ?_⟩⟩
  · simpa [layer?, none] using all.cameras camera
  · have level : layer.value cell inside = plan.superposed camera cell history := by
      have sum := all.levels camera cell inside
      rw [level_none, zero_mul, zero_add, Evidence.level, found] at sum
      exact sum
    exact ⟨level, level ▸ plan.superposed_nonneg increment retention camera cell history⟩
  · obtain ⟨reached, same, one'⟩ := performAll_superposes after [command]
    change (after.perform command >>= _) = _ at same
    rw [one] at same
    cases same
    exact (one'.cameras camera).2 (.inl filed)
  · rintro name ray rfl camera other
    exact layer?_perform_trace one other

/-- Two square metres side by side. -/
noncomputable def exactPair : EvidencePlan ℝ where
  tiling := ⟨⟨0, 0, 2, 1⟩, 2, 1, rfl, by simp [Bounds.isOpen], Nat.two_pos, Nat.one_pos⟩
  increment := 1 / 40
  retention := 3 / 4
  maskThreshold := 1 / 100

noncomputable def fadedRay : List (EvidenceCommand ℝ) :=
  [.trace "a" ⟨⟨1 / 2, 1 / 4⟩, ⟨1 / 2, 3 / 4⟩⟩, .decay]

theorem exactPair_cellSize : exactPair.tiling.cellSize = ⟨1, 1⟩ := by
  norm_num [Tiling.cellSize, exactPair, Exact.ofNat_eq]

theorem exactPair_step : exactPair.tiling.samplingStep = 1 / 4 := by
  rw [Tiling.samplingStep_eq, exactPair_cellSize, Scalar.lesser, if_pos (le_refl _)]

theorem exactPair_clamp {y : ℝ} (low : 1 / 4 ≤ y) (high : y ≤ 3 / 4) :
    exactPair.tiling.clamp (exactPair.tiling.samplingStep / 2) ⟨1 / 2, y⟩ = .ok ⟨1 / 2, y⟩ := by
  apply Tiling.clamp_of_inside
  · norm_num [exactPair]
  · rw [exactPair_step]
    norm_num [exactPair]
  · simp only [exactPair]
    linarith
  · rw [exactPair_step]
    simp only [exactPair]
    linarith

theorem exactPair_superposes :
    ∃ after, (none : Evidence exactPair).performAll fadedRay = .ok after ∧
      (after.layer? "a").isSome ∧ after.layer? "b" = Option.none := by
  have increment : 0 < exactPair.increment := by norm_num [exactPair]
  have retention : 0 < exactPair.retention := by norm_num [exactPair]
  obtain ⟨after, done, marked, _⟩ := history_superposes increment retention fadedRay
  have inside : exactPair.tiling.clampEnds ⟨⟨1 / 2, 1 / 4⟩, ⟨1 / 2, 3 / 4⟩⟩ =
      .ok ⟨⟨1 / 2, 1 / 4⟩, ⟨1 / 2, 3 / 4⟩⟩ :=
    Tiling.clampEnds_of_clamp (exactPair_clamp (by norm_num) (by norm_num))
      (exactPair_clamp (by norm_num) (by norm_num))
  have long : exactPair.tiling.samplingStep ≤
      (⟨⟨1 / 2, 1 / 4⟩, ⟨1 / 2, 3 / 4⟩⟩ : Segment ℝ).along.norm := by
    rw [exactPair_step]
    apply Real.le_sqrt_of_sq_le
    norm_num [Segment.along, Point.normSq, Point.dot]
  refine ⟨after, done, (marked "a").2 ⟨_, List.mem_cons_self, _, inside, long⟩, ?_⟩
  have unmarked : ¬ exactPair.Marked "b" fadedRay := by
    rintro ⟨ray, member, _⟩
    simp [fadedRay] at member
  exact Option.not_isSome_iff_eq_none.1 fun filed => unmarked ((marked "b").1 filed)

end Evidence

end Sightline
