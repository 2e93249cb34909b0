import Sightline.Proofs.Engine.Fading
import Sightline.Proofs.Evidence.Surfaces
import Sightline.Proofs.Plane.Tiles
import Sightline.Proofs.Raster.Peaks

/-!
# Heatmaps

A heatmap shows a surface in levels of grey: a cell in row `y` and column `x` is the pixel `(x, y)`,
and the greatest value is white.  It looks for that value column after column, above zero only, while
the focus looks for it row after row, from the lowest value on.  In exact arithmetic both find the same
as soon as anything is above zero.  A surface with sides that can be counted in 32 bits is shown whole.
-/

set_option autoImplicit false

namespace Sightline

/-! ## Levels -/

namespace Exact

/-- A level is the nearest whole number, and white from there on. -/
theorem level_eq (a : ℝ) : Scalar.level a = UInt8.ofNat (min ⌊a + 1 / 2⌋₊ 255) := by
  have half : (0.5 : ℝ) = 1 / 2 := by norm_num
  have rounded : Scalar.level a =
      UInt8.ofNat (min (if (1 / 2 : ℝ) ≤ a - (Scalar.floorCount a : ℝ) then Scalar.floorCount a + 1
        else Scalar.floorCount a) 255) := by
    rw [← half]
    rfl
  rw [rounded]
  congr 1
  -- A count that is cut off at 64 bits is white either way, and below zero it stays at nought.
  rcases le_or_gt (2 ^ 64 : ℝ) a with large | small
  · have floor : 2 ^ 64 ≤ ⌊a⌋₊ := Nat.le_floor (by exact_mod_cast large)
    have more : ⌊a⌋₊ ≤ ⌊a + 1 / 2⌋₊ := Nat.floor_mono (by linarith)
    rw [floorCount_eq]
    split
    · omega
    · omega
  · rw [floorCount_of_small small]
    rcases le_or_gt 0 a with nonneg | negative
    · have below := Nat.floor_le nonneg
      have above := Nat.lt_floor_add_one a
      split
      · rename_i far
        have up : ⌊a + 1 / 2⌋₊ = ⌊a⌋₊ + 1 :=
          (Nat.floor_eq_iff (by linarith)).2 ⟨by push_cast; linarith, by push_cast; linarith⟩
        rw [up]
      · rename_i near
        have down : ⌊a + 1 / 2⌋₊ = ⌊a⌋₊ :=
          (Nat.floor_eq_iff (by linarith)).2 ⟨by linarith, by linarith⟩
        rw [down]
    · have none : ⌊a⌋₊ = 0 := Nat.floor_of_nonpos negative.le
      have still : ⌊a + 1 / 2⌋₊ = 0 := Nat.floor_eq_zero.2 (by linarith)
      rw [none, still, if_neg (by push_cast; linarith)]

theorem level_le_level {a b : ℝ} (less : a ≤ b) : Scalar.level a ≤ Scalar.level b := by
  have floors : ⌊a + 1 / 2⌋₊ ≤ ⌊b + 1 / 2⌋₊ := Nat.floor_mono (by linarith)
  have small : ∀ n, min n 255 < UInt8.size := fun n => Nat.lt_succ_of_le (min_le_right n 255)
  rw [level_eq, level_eq, UInt8.le_iff_toNat_le, UInt8.toNat_ofNat_of_lt' (small _),
    UInt8.toNat_ofNat_of_lt' (small _)]
  exact min_le_min_right 255 floors

theorem level_zero : Scalar.level (0 : ℝ) = 0 := by
  have floor : ⌊(0 : ℝ) + 1 / 2⌋₊ = 0 := Nat.floor_eq_zero.2 (by norm_num)
  rw [level_eq, floor]
  rfl

theorem level_white : Scalar.level (255 : ℝ) = 255 := by
  have floor : ⌊(255 : ℝ) + 1 / 2⌋₊ = 255 := (Nat.floor_eq_iff (by norm_num)).2 (by norm_num)
  rw [level_eq, floor]
  rfl

end Exact

/-! ## Pixels -/

namespace Heatmap

variable {rows columns : Nat}

/-- The pixel in a column and a row of a picture. -/
def pixel? (image : Heatmap rows columns) (x y : Nat) : Option UInt8 := image.value? ⟨y, x⟩

theorem pixel?_ofLevels (levels : Raster UInt8 rows columns) (x y : Nat) : (ofLevels levels).pixel? x y =
    if Raster.Holds (side rows) (side columns) ⟨y, x⟩ then levels.value? ⟨y, x⟩ else none :=
  levels.value?_corner (side_le rows) (side_le columns) ⟨y, x⟩

/-- Where both sides can be counted in 32 bits nothing is cut off. -/
theorem pixel?_ofLevels_of_lt (wide : columns < 2 ^ 32) (high : rows < 2 ^ 32)
    (levels : Raster UInt8 rows columns) (x y : Nat) :
    (ofLevels levels).pixel? x y = levels.value? ⟨y, x⟩ := by
  rw [pixel?_ofLevels, side_of_lt wide, side_of_lt high]
  split
  · rfl
  · rename_i outside
    exact (Raster.value?_of_not_holds outside).symm

end Heatmap

namespace Evidence

section Pictures

variable {rows columns : Nat} {surface : Raster ℝ rows columns} {greatest : ℝ}

/-- The level of a value in proportion to a greatest one. -/
noncomputable def brightness (greatest value : ℝ) : UInt8 :=
  if 0 < greatest then UInt8.ofNat (min ⌊value / greatest * 255 + 1 / 2⌋₊ 255) else 0

/-- A picture of a surface, cell for cell, and what can be seen of it. -/
structure Portrays (surface : Raster ℝ rows columns) (greatest : ℝ) (image : Heatmap rows columns) :
    Prop where
  size : ∀ x y, (image.pixel? x y).isSome = true ↔ x < columns ∧ y < rows
  pixel : ∀ x y, image.pixel? x y = (surface.value? ⟨y, x⟩).map (brightness greatest)
  ascending : ∀ x y x' y' value value', surface.value? ⟨y, x⟩ = some value →
    surface.value? ⟨y', x'⟩ = some value' → value ≤ value' →
      ∃ level level', image.pixel? x y = some level ∧ image.pixel? x' y' = some level' ∧
        level ≤ level'
  black : ∀ x y, surface.value? ⟨y, x⟩ = some 0 → image.pixel? x y = some 0
  white : 0 < greatest → ∀ x y, surface.value? ⟨y, x⟩ = some greatest → image.pixel? x y = some 255
  blank : greatest = 0 → ∀ x y level, image.pixel? x y = some level → level = 0

theorem brightness_eq (bright : 0 < greatest) (value : ℝ) :
    brightness greatest value = Scalar.level (value / greatest * 255) := by
  rw [brightness, if_pos bright, Exact.level_eq]

theorem brightness_le {value other : ℝ} (less : value ≤ other) :
    brightness greatest value ≤ brightness greatest other := by
  by_cases bright : 0 < greatest
  · rw [brightness_eq bright, brightness_eq bright]
    apply Exact.level_le_level
    gcongr
  · rw [brightness, brightness, if_neg bright, if_neg bright]
    exact UInt8.le_refl 0

theorem brightness_zero : brightness greatest 0 = 0 := by
  by_cases bright : 0 < greatest
  · rw [brightness_eq bright, zero_div, zero_mul, Exact.level_zero]
  · rw [brightness, if_neg bright]

theorem brightness_self (bright : 0 < greatest) : brightness greatest greatest = 255 := by
  rw [brightness_eq bright, div_self bright.ne', one_mul, Exact.level_white]

theorem portrays_map (wide : columns < 2 ^ 32) (high : rows < 2 ^ 32) (surface : Raster ℝ rows columns)
    (greatest : ℝ) : Portrays surface greatest (.ofLevels (surface.map (brightness greatest))) := by
  have pixel : ∀ x y, (Heatmap.ofLevels (surface.map (brightness greatest))).pixel? x y =
      (surface.value? ⟨y, x⟩).map (brightness greatest) := by
    intro x y
    rw [Heatmap.pixel?_ofLevels_of_lt wide high, Raster.value?_map]
  refine ⟨fun x y => ?_, pixel, ?_, fun x y found => ?_, fun bright x y found => ?_, ?_⟩
  · rw [pixel, Option.isSome_map, Raster.isSome_value?]
    exact And.comm
  · intro x y x' y' value value' found foundToo less
    refine ⟨brightness greatest value, brightness greatest value', ?_, ?_, brightness_le less⟩
    · rw [pixel, found, Option.map_some]
    · rw [pixel, foundToo, Option.map_some]
  · rw [pixel, found, Option.map_some, brightness_zero]
  · rw [pixel, found, Option.map_some, brightness_self bright]
  · rintro rfl x y level shown
    rw [pixel, Option.map_eq_some_iff] at shown
    obtain ⟨value, _, rfl⟩ := shown
    exact if_neg (lt_irrefl 0)

theorem shade_eq (surface : Raster ℝ rows columns) :
    shade surface = .ofLevels (surface.map (brightness (surface.fold Scalar.peakWith 0))) := by
  have zero : (Scalar.ofNat 0 : ℝ) = 0 := Exact.zero_eq
  have full : (Scalar.ofNat 255 : ℝ) = 255 := Nat.cast_ofNat
  change Heatmap.ofLevels (surface.map fun value =>
    if Scalar.ofNat 0 < surface.fold Scalar.peakWith (Scalar.ofNat 0)
    then Scalar.level (value / surface.fold Scalar.peakWith (Scalar.ofNat 0) * Scalar.ofNat 255)
    else 0) = _
  rw [zero, full]
  refine congrArg (fun level => Heatmap.ofLevels (surface.map level)) (funext fun value => ?_)
  split
  · rename_i bright
    rw [brightness_eq bright]
  · rename_i dark
    rw [brightness, if_neg dark]

/-- Both searches find the same value, if it is above zero; else there is nothing to see. -/
theorem shade_eq_peak (surface : Raster ℝ rows columns) :
    shade surface = .ofLevels (surface.map (brightness (peak surface).2)) := by
  obtain ⟨reached, atMost⟩ := surface.isGreatest_fold_peakWith 0
  rw [shade_eq]
  by_cases bright : 0 < (peak surface).2
  · have lowest : (Scalar.lowest : ℝ) < 0 := neg_one_lt_zero
    have first := firstPeak_peak (lowest.trans bright)
    -- The one search starts below zero and the other at zero, and neither ends where it starts.
    have white : surface.fold Scalar.peakWith 0 = (peak surface).2 := by
      apply le_antisymm _ (atMost (.inr ⟨_, first.held⟩))
      rcases reached with none | ⟨cell, found⟩
      · exact none.trans_le bright.le
      · exact first.atMost cell _ found (le_refl _)
    rw [white]
  · have dark : ¬ 0 < surface.fold Scalar.peakWith 0 := by
      intro white
      rcases reached with none | ⟨cell, found⟩
      · exact white.ne' none
      · obtain ⟨inside, value⟩ := Raster.value?_eq_some.1 found
        have notBelow := (peak_best surface).notBelow inside (.inl inside.1)
        exact bright (white.trans_le (value.ge.trans (not_lt.1 notBelow)))
    exact congrArg (fun level => Heatmap.ofLevels (surface.map level))
      (funext fun _ => (if_neg dark).trans (if_neg bright).symm)

/-- What is seen of a surface of any size. -/
theorem pixel?_shade (surface : Raster ℝ rows columns) (x y : ℕ) : (shade surface).pixel? x y =
    if Raster.Holds (Heatmap.side rows) (Heatmap.side columns) ⟨y, x⟩ then
      (surface.value? ⟨y, x⟩).map (brightness (peak surface).2)
    else Option.none := by
  rw [shade_eq_peak, Heatmap.pixel?_ofLevels, Raster.value?_map]

end Pictures

end Evidence

/-- Where two cameras are above the threshold, so is the sum. -/
theorem Evidence.maskThreshold_lt_total {plan : EvidencePlan ℝ} {e : Evidence plan} {cell : Cell}
    {inside : Raster.Holds plan.tiling.rows plan.tiling.columns cell} (nonneg : e.AllCells (0 ≤ ·))
    (salient : e.Salient cell inside) : plan.maskThreshold < e.total cell inside := by
  obtain ⟨first, _, layer, _, _, filed, _, above, _⟩ := e.layers.exists_two_of_countP salient
  have member : layer ∈ e.layers.values :=
    List.mem_map.2 ⟨(first, layer), Directory.mem_of_get? filed, rfl⟩
  rw [total_eq_sum]
  refine (of_decide_eq_true above).trans_le (List.single_le_sum ?_ _ (List.mem_map_of_mem member))
  intro value shown
  obtain ⟨other, filed, rfl⟩ := List.mem_map.1 shown
  exact nonneg.of_values filed cell inside

/-! ## A grid at work -/

theorem EvidencePlan.size_of_ofSettings {settings : Settings ℝ} {plan : EvidencePlan ℝ}
    (planned : ofSettings settings = .ok plan) :
    plan.tiling.columns = settings.columns ∧ plan.tiling.rows = settings.rows := by
  obtain ⟨tiling, tiled, result⟩ := bind_eq_ok.1 planned
  cases result
  exact (Tiling.of_cut tiled).2

namespace Desk

section Reading

variable {α : Type} [Scalar α] {plan : EvidencePlan α}

def heatmap (desk : Desk plan) : Heatmap plan.tiling.rows plan.tiling.columns × Desk plan :=
  (Evidence.shade desk.survey.1, desk.survey.2)

def focus (desk : Desk plan) : Focus α × Desk plan :=
  let (cell, value) := Evidence.peak desk.survey.1
  let surveyed := desk.survey.2
  (⟨plan.tiling.centerOf cell, value⟩,
    { surveyed with tally := surveyed.tally.read .focusValue value })

variable [LawfulScalar α] [CountingScalar α]

/-- A heatmap in buffers is the heatmap of the layers, gauges included. -/
theorem heatmap_eq (desk : Desk plan) :
    (desk.heatmap.1, desk.heatmap.2.tally) = desk.evidence.heatmap desk.tally := by
  unfold heatmap Evidence.heatmap survey
  dsimp only
  rw [Evidence.surveyIn_fst]

theorem focus_eq (desk : Desk plan) :
    (desk.focus.1, desk.focus.2.tally) = desk.evidence.focus desk.tally := by
  unfold focus Evidence.focus survey
  dsimp only
  rw [Evidence.surveyIn_fst]

theorem heatmap_fst (desk : Desk plan) : desk.heatmap.1 = Evidence.shade desk.evidence.surface :=
  (congrArg Prod.fst desk.heatmap_eq).trans
    (congrArg Evidence.shade (desk.evidence.survey_fst desk.tally))

theorem focus_fst (desk : Desk plan) : desk.focus.1 = desk.evidence.brightest :=
  (congrArg Prod.fst desk.focus_eq).trans (desk.evidence.focus_fst desk.tally)

/-- What comes after a heatmap shows what it would have shown without. -/
theorem performAll_after_heatmap (desk : Desk plan) (later : List (DeskCommand α)) :
    (desk.heatmap.2.performAll later).map (fun run => (run.1, run.2.evidence)) =
      (desk.performAll later).map fun run => (run.1, run.2.evidence) := by
  rw [performAll_eq_displayAll, performAll_eq_displayAll]
  rfl

end Reading

/-- In exact arithmetic each pixel of a heatmap shows its cell of the surface in proportion to the value
of the focus.  Where columns and rows can be counted in 32 bits the heatmap is a whole picture, as wide and
as high as the settings have it.  The focus is the centre of one cell, whose pixel is then white if there
is anything to see.  Neither the layers nor what is shown later depend on the heatmap. -/
theorem heatmap_agrees_with_focus {settings : Settings ℝ} {plan : EvidencePlan ℝ}
    (planned : EvidencePlan.ofSettings settings = .ok plan) (desk : Desk plan) :
    (plan.tiling.columns = settings.columns ∧ plan.tiling.rows = settings.rows) ∧
      (∀ x y, desk.heatmap.1.pixel? x y =
        if Raster.Holds (Heatmap.side plan.tiling.rows) (Heatmap.side plan.tiling.columns) ⟨y, x⟩ then
          (desk.evidence.surface.value? ⟨y, x⟩).map (Evidence.brightness desk.focus.1.value)
        else none) ∧
      (settings.columns < 2 ^ 32 → settings.rows < 2 ^ 32 →
        Evidence.Portrays desk.evidence.surface desk.focus.1.value desk.heatmap.1) ∧
      (∃ cell, Raster.Holds plan.tiling.rows plan.tiling.columns cell ∧
        (∀ other, desk.focus.1.position = plan.tiling.centerOf other ↔ other = cell) ∧
        (settings.columns < 2 ^ 32 → settings.rows < 2 ^ 32 → 0 < desk.focus.1.value →
          desk.heatmap.1.pixel? cell.column cell.row = some 255)) ∧
      desk.heatmap.2.evidence = desk.evidence ∧
      ∀ later, (desk.heatmap.2.performAll later).map (fun run => (run.1, run.2.evidence)) =
        (desk.performAll later).map fun run => (run.1, run.2.evidence) := by
  obtain ⟨width, height⟩ := EvidencePlan.size_of_ofSettings planned
  have portrays : settings.columns < 2 ^ 32 → settings.rows < 2 ^ 32 →
      Evidence.Portrays desk.evidence.surface desk.evidence.brightest.value desk.heatmap.1 := by
    intro wide high
    rw [heatmap_fst, Evidence.shade_eq_peak]
    exact Evidence.portrays_map (width ▸ wide) (height ▸ high) _ _
  rw [focus_fst]
  refine ⟨⟨width, height⟩, fun x y => ?_, portrays,
    ⟨(Evidence.peak desk.evidence.surface).1, ?_, fun other => ?_, fun wide high bright => ?_⟩, rfl,
    desk.performAll_after_heatmap⟩
  · rw [heatmap_fst]
    exact Evidence.pixel?_shade _ x y
  · exact Evidence.holds_peak _ plan.tiling.rows_pos plan.tiling.columns_pos
  · exact Tiling.centerOf_injective.eq_iff.trans eq_comm
  · have lowest : (Scalar.lowest : ℝ) < 0 := neg_one_lt_zero
    exact (portrays wide high).white bright _ _ (Evidence.firstPeak_peak (lowest.trans bright)).held

/-- A cell that two cameras have looked through is white. -/
theorem crossedDesk_white :
    EvidencePlan.ofSettings Engine.exactSettings = .ok Engine.exactYard.evidencePlan ∧
      ∃ desk : Desk Engine.exactYard.evidencePlan,
        0 < desk.focus.1.value ∧ desk.heatmap.1.pixel? 0 0 = some 255 := by
  have planned := Site.ofSettings_of_create Engine.exactYard_created
  have follows := Site.follows_of_create Engine.exactYard_created
  obtain ⟨e, done, _⟩ := Evidence.performAll_superposes
    (Evidence.none : Evidence Engine.exactYard.evidencePlan)
    (EvidenceCommand.traces [("a", Engine.upwardRay), ("b", Engine.acrossRay)])
  have nonneg : e.AllCells (0 ≤ ·) := Evidence.exact_cells_nonneg (Engine.exact_increment follows)
    (Engine.exact_retention follows).1 done
  have salient := Engine.crossedRays_salient (Evidence.gathers_of_performAll done)
  have bright : 0 < e.brightest.value := by
    have threshold : (0 : ℝ) < Engine.exactYard.evidencePlan.maskThreshold := by
      change (0 : ℝ) < 0.01
      norm_num
    have notBelow := (Evidence.peak_best e.surface).notBelow Engine.exactYard_inside (.inl Nat.one_pos)
    rw [Evidence.value_surface, if_pos salient, not_lt] at notBelow
    exact threshold.trans ((Evidence.maskThreshold_lt_total nonneg salient).trans_le notBelow)
  obtain ⟨_, _, _, ⟨⟨row, column⟩, ⟨rowInside, columnInside⟩, _, white⟩, _⟩ :=
    heatmap_agrees_with_focus planned ⟨e, ⟨.fill _ _ 7, .fill _ _ 7, .fill _ _ 7⟩, .zero⟩
  obtain rfl : row = 0 := Nat.lt_one_iff.1 rowInside
  obtain rfl : column = 0 := Nat.lt_one_iff.1 columnInside
  have focused : 0 < (focus ⟨e, ⟨.fill _ _ 7, .fill _ _ 7, .fill _ _ 7⟩, .zero⟩).1.value := by
    rw [focus_fst]
    exact bright
  have wide : Engine.exactSettings.columns < 2 ^ 32 := by norm_num [Engine.exactSettings]
  have high : Engine.exactSettings.rows < 2 ^ 32 := by norm_num [Engine.exactSettings]
  exact ⟨planned, _, focused, white wide high focused⟩

end Desk

end Sightline
