import Sightline.Proofs.Evidence.Levels
import Sightline.Proofs.Scalar.Sizes

/-!
# Room inside the rectangle

Rays are brought into the rectangle short of its upper sides, by a margin taken from the smaller side
of a cell.  In binary64 the sides of the rectangle may overflow; there is room for the margin as long
as one of the two does not.
-/

set_option autoImplicit false

namespace Sightline

/-- Not both sides are longer than every finite number. -/
def Bounds.hasFiniteSide {α : Type} [Scalar α] (b : Bounds α) : Bool :=
  Scalar.isFinite (b.maxX - b.minX) || Scalar.isFinite (b.maxY - b.minY)

namespace Binary64

open Float.Model Float.Model.UnpackedFloat

variable {low high margin a b : Float}

/-! ## One axis -/

/-- The side of a cell, finite and short enough, or infinite because the rectangle is longer than
every finite number. -/
inductive CellSide (low high cell : Float) : Prop
  | finite (extent : Scalar.isFinite (high - low) = true)
      (finite : Scalar.isFinite cell = true) (nonneg : 0 ≤ value cell)
      (short : value cell ≤ 2 * (value high - value low))
  | infinite (extent : ¬ Scalar.isFinite (high - low) = true)
      (unpacked : cell.toModel.unpack = .infinity .positive)
      (long : ∀ z, Representable z → z < 2 ^ 1024 → z ≤ value high - value low)

theorem div_of_infinite (count : ℕ) (some : 1 ≤ count) (small : count < 2 ^ 64)
    (infinite : a.toModel.unpack = .infinity .positive) :
    (a / Scalar.ofNat count).toModel.unpack = .infinity .positive := by
  obtain ⟨finite, _⟩ := ofNat_finite small
  have one := one_le_value_ofNat some small
  have canonical := canonical_of_finite finite
  have quotient : UnpackedFloat.div .binary64 a.toModel.unpack
      (Scalar.ofNat count : Float).toModel.unpack = .infinity .positive := by
    rw [infinite]
    unfold value at one
    obtain ⟨s, same⟩ | ⟨s, m, e, positive, same⟩ := canonical_cases canonical
    · rw [same, exactly_zero] at one
      exact absurd one (by norm_num)
    · rw [same] at one ⊢
      cases s with
      | positive => rfl
      | negative =>
          have size := (exactly_finite .negative m e positive).1
          rw [exactly, signum_negative] at one
          linarith
  change (Float.Model.pack (UnpackedFloat.div .binary64 a.toModel.unpack
    (Scalar.ofNat count : Float).toModel.unpack)).unpack = _
  rw [quotient]
  rfl

theorem cellSide {count : ℕ} (lowFinite : Scalar.isFinite low = true)
    (highFinite : Scalar.isFinite high = true) (less : low < high) (some : 1 ≤ count)
    (small : count < 2 ^ 64) : CellSide low high ((high - low) / Scalar.ofNat count) := by
  have positive : 0 < value high - value low :=
    sub_pos.2 ((value_lt_value lowFinite highFinite).1 less)
  have rounded := sub_roundsTo highFinite lowFinite
  by_cases finite : Scalar.isFinite (high - low) = true
  · have rounds := rounded.rounds_of_finite finite
    have nonneg := rounds.le_of_le .zero positive.le
    obtain ⟨cellFinite, nonneg, short, _⟩ :=
      div_shortens finite nonneg (ofNat_finite small).1 (one_le_value_ofNat some small)
    exact .finite finite cellFinite nonneg (short.trans (rounds.le_two_mul positive.le))
  · obtain ⟨s, unpacked, beyond⟩ := rounded.infinite finite
    have one := beyond 1 (.two_zpow (f := 0) (by norm_num)) (one_lt_pow₀ one_lt_two (by norm_num))
    cases s with
    | negative =>
        rw [signum_negative] at one
        linarith
    | positive =>
        simp only [signum_positive, one_mul] at beyond
        exact .infinite finite (div_of_infinite count some small unpacked) beyond

theorem le_sub_of_room (lowFinite : Scalar.isFinite low = true)
    (highFinite : Scalar.isFinite high = true) (marginFinite : Scalar.isFinite margin = true)
    (nonneg : 0 ≤ value margin) (room : value margin ≤ value high - value low) :
    low ≤ high - margin := by
  have lower : value low ≤ value high - value margin := by linarith
  have upper : value high - value margin ≤ value high := by linarith
  obtain ⟨finite, rounds⟩ := (sub_roundsTo highFinite marginFinite).finite_of_mem
    (value_representable lowFinite) (value_representable highFinite) (neg_lt_value lowFinite)
    (value_lt highFinite) lower upper
  exact (value_le_value lowFinite finite).2 (rounds.le_of_le (value_representable lowFinite) lower)

/-! ## The margin -/

theorem not_le_sub_infinite (lowFinite : Scalar.isFinite low = true)
    (highFinite : Scalar.isFinite high = true)
    (infinite : margin.toModel.unpack = .infinity .positive) : ¬ low ≤ high - margin := by
  have difference : (high - margin).toModel.unpack = .infinity .negative := by
    change (Float.Model.pack (UnpackedFloat.sub .binary64 high.toModel.unpack
      margin.toModel.unpack)).unpack = _
    have overflow : UnpackedFloat.sub .binary64 high.toModel.unpack (.infinity .positive) =
        .infinity .negative := by
      obtain ⟨s, same⟩ | ⟨s, m, e, positive, same⟩ :=
        canonical_cases (canonical_of_finite highFinite) <;> rw [same] <;>
        simp [UnpackedFloat.sub] <;> rfl
    rw [infinite, overflow]
    rfl
  rw [le_iff, unpacked_le_iff, difference]
  rintro ⟨p, q, first, second, le⟩
  cases second
  obtain ⟨s, same⟩ | ⟨s, m, e, positive, same⟩ := canonical_cases (canonical_of_finite lowFinite)
  · rw [same] at first
    cases first
    exact absurd le (by decide)
  · rw [same] at first
    cases s <;> cases first <;> simp [Prod.Lex.le_iff] at le

variable {lowX highX cellX lowY highY cellY : Float}

/-- The smaller of two sides is finite if one of them is, and no longer than the finite ones. -/
theorem lesser_side (across : CellSide lowX highX cellX) (up : CellSide lowY highY cellY)
    (some : Scalar.isFinite (highX - lowX) = true ∨ Scalar.isFinite (highY - lowY) = true) :
    Scalar.isFinite (Scalar.lesser cellX cellY) = true ∧ 0 ≤ value (Scalar.lesser cellX cellY) ∧
      (Scalar.isFinite cellX = true → value (Scalar.lesser cellX cellY) ≤ value cellX) ∧
      (Scalar.isFinite cellY = true → value (Scalar.lesser cellX cellY) ≤ value cellY) := by
  cases across with
  | finite _ finiteX nonnegX _ =>
      cases up with
      | finite _ finiteY nonnegY _ =>
          by_cases ordered : cellX ≤ cellY
          · have first : Scalar.lesser cellX cellY = cellX := if_pos ordered
            rw [first]
            exact ⟨finiteX, nonnegX, fun _ => le_rfl,
              fun _ => (value_le_value finiteX finiteY).1 ordered⟩
          · have second : Scalar.lesser cellX cellY = cellY :=
              (if_neg ordered).trans (if_pos (le_refl_of_finite finiteY))
            rw [second]
            rw [value_le_value finiteX finiteY] at ordered
            exact ⟨finiteY, nonnegY, fun _ => (not_le.1 ordered).le, fun _ => le_rfl⟩
      | infinite _ unpacked _ =>
          have first : Scalar.lesser cellX cellY = cellX := if_pos (le_infinite finiteX unpacked)
          rw [first]
          refine ⟨finiteX, nonnegX, fun _ => le_rfl, fun finiteY => ?_⟩
          rw [isFinite_eq, unpacked] at finiteY
          cases finiteY
  | infinite notFinite unpacked _ =>
      cases up with
      | finite _ finiteY nonnegY _ =>
          have second : Scalar.lesser cellX cellY = cellY :=
            (if_neg (not_infinite_le finiteY unpacked)).trans
              (if_pos (le_refl_of_finite finiteY))
          rw [second]
          refine ⟨finiteY, nonnegY, fun finiteX => ?_, fun _ => le_rfl⟩
          rw [isFinite_eq, unpacked] at finiteX
          cases finiteX
      | infinite notFinite' _ _ => exact absurd some (not_or.2 ⟨notFinite, notFinite'⟩)

/-- A quarter of a side, halved: both steps round, and together they keep below half the side. -/
theorem margin_of_side (finite : Scalar.isFinite a = true) (nonneg : 0 ≤ value a) :
    Scalar.isFinite (a / Scalar.ofNat 4 / Scalar.ofNat 2) = true ∧
      0 ≤ value (a / Scalar.ofNat 4 / Scalar.ofNat 2) ∧
      value (a / Scalar.ofNat 4 / Scalar.ofNat 2) ≤ value a / 2 := by
  have four : value (Scalar.ofNat 4) = 4 := value_ofNat (by norm_num)
  obtain ⟨quarterFinite, quarterNonneg, _, quarterRounds⟩ :=
    div_shortens finite nonneg (ofNat_finite (n := 4) (by norm_num)).1
      (one_le_value_ofNat (by norm_num) (by norm_num))
  obtain ⟨marginFinite, marginNonneg, marginShort, _⟩ :=
    div_shortens quarterFinite quarterNonneg (ofNat_finite (n := 2) (by norm_num)).1
      (one_le_value_ofNat (by norm_num) (by norm_num))
  rw [four] at quarterRounds
  have doubled := quarterRounds.le_two_mul (by positivity)
  exact ⟨marginFinite, marginNonneg, by linarith⟩

theorem CellSide.infinite_of_overflow {cell : Float} (side : CellSide low high cell)
    (overflow : ¬ Scalar.isFinite (high - low) = true) :
    cell.toModel.unpack = .infinity .positive := by
  cases side with
  | finite extent _ _ _ => exact absurd extent overflow
  | infinite _ unpacked _ => exact unpacked

theorem CellSide.room {cell : Float} (side : CellSide low high cell)
    (marginFinite : Scalar.isFinite margin = true)
    (short : Scalar.isFinite cell = true → value margin ≤ value cell / 2) :
    value margin ≤ value high - value low := by
  cases side with
  | finite _ cellFinite _ bound =>
      have := short cellFinite
      linarith
  | infinite _ _ long => exact long _ (value_representable marginFinite) (value_lt marginFinite)

end Binary64

namespace Tiling

variable (t : Tiling Float)

theorem bounds_finite : Scalar.isFinite t.bounds.minX = true ∧ Scalar.isFinite t.bounds.minY = true ∧
    Scalar.isFinite t.bounds.maxX = true ∧ Scalar.isFinite t.bounds.maxY = true := by
  have finite := t.finite
  simp only [Bounds.isFinite, Bool.and_eq_true] at finite
  obtain ⟨⟨⟨minX, minY⟩, maxX⟩, maxY⟩ := finite
  exact ⟨minX, minY, maxX, maxY⟩

theorem bounds_open : t.bounds.minX < t.bounds.maxX ∧ t.bounds.minY < t.bounds.maxY := by
  have fits := t.isOpen
  simpa only [Bounds.isOpen, Bool.and_eq_true, decide_eq_true_eq] using fits

/-- The numbers of columns and rows fit the counts that are converted. -/
def Countable (t : Tiling Float) : Prop := t.columns < 2 ^ 64 ∧ t.rows < 2 ^ 64

theorem sides (countable : t.Countable) :
    Binary64.CellSide t.bounds.minX t.bounds.maxX t.cellSize.x ∧
      Binary64.CellSide t.bounds.minY t.bounds.maxY t.cellSize.y := by
  obtain ⟨minX, minY, maxX, maxY⟩ := t.bounds_finite
  obtain ⟨openX, openY⟩ := t.bounds_open
  exact ⟨Binary64.cellSide minX maxX openX t.columns_pos countable.1,
    Binary64.cellSide minY maxY openY t.rows_pos countable.2⟩

theorem hasRoom_of_hasFiniteSide (countable : t.Countable)
    (finiteSide : t.bounds.hasFiniteSide = true) : t.HasRoom := by
  obtain ⟨minX, minY, maxX, maxY⟩ := t.bounds_finite
  obtain ⟨across, up⟩ := t.sides countable
  rw [Bounds.hasFiniteSide, Bool.or_eq_true] at finiteSide
  obtain ⟨sideFinite, sideNonneg, sideX, sideY⟩ := Binary64.lesser_side across up finiteSide
  obtain ⟨marginFinite, marginNonneg, short⟩ := Binary64.margin_of_side sideFinite sideNonneg
  have roomX := across.room marginFinite fun finite => by linarith [sideX finite]
  have roomY := up.room marginFinite fun finite => by linarith [sideY finite]
  exact ⟨Binary64.le_sub_of_room minX maxX marginFinite marginNonneg roomX,
    Binary64.le_sub_of_room minY maxY marginFinite marginNonneg roomY⟩

theorem cellSize_infinite (countable : t.Countable)
    (overflow : t.bounds.hasFiniteSide = false) :
    t.cellSize.x.toModel.unpack = .infinity .positive ∧
      t.cellSize.y.toModel.unpack = .infinity .positive := by
  obtain ⟨across, up⟩ := t.sides countable
  rw [Bounds.hasFiniteSide, Bool.or_eq_false_iff] at overflow
  exact ⟨across.infinite_of_overflow (Bool.eq_false_iff.1 overflow.1),
    up.infinite_of_overflow (Bool.eq_false_iff.1 overflow.2)⟩

/-- If both sides overflow, so does the margin. -/
theorem not_hasRoom_of_overflow (countable : t.Countable)
    (overflow : t.bounds.hasFiniteSide = false) : ¬ t.HasRoom := by
  obtain ⟨minX, _, maxX, _⟩ := t.bounds_finite
  obtain ⟨across, up⟩ := t.cellSize_infinite countable overflow
  have side : Scalar.lesser t.cellSize.x t.cellSize.y = t.cellSize.x :=
    if_pos (Binary64.infinite_le_infinite across up)
  have step : t.samplingStep.toModel.unpack = .infinity .positive := by
    have quarter := Binary64.div_of_infinite 4 (by norm_num) (by norm_num) across
    rw [samplingStep, side]
    exact quarter
  have margin := Binary64.div_of_infinite 2 (by norm_num) (by norm_num) step
  exact fun room => Binary64.not_le_sub_infinite minX maxX margin room.across

/-- No cell of such a rectangle has a centre that can be a target's place. -/
theorem centerOf_not_finite (countable : t.Countable)
    (overflow : t.bounds.hasFiniteSide = false) (cell : Cell) :
    (t.centerOf cell).isFinite = false := by
  obtain ⟨across, _⟩ := t.cellSize_infinite countable overflow
  by_contra finite
  rw [Bool.not_eq_false, Point.isFinite, Bool.and_eq_true] at finite
  have side := StrictScalar.finite_of_mul (StrictScalar.finite_of_add finite.1).2
  have infinite : Scalar.isFinite t.cellSize.x = false := by
    rw [Binary64.isFinite_eq, across]
    rfl
  exact absurd side.1 (Bool.eq_false_iff.1 infinite)

theorem hasRoom_iff (countable : t.Countable) : t.HasRoom ↔ t.bounds.hasFiniteSide = true := by
  constructor
  · intro room
    by_contra overflow
    exact t.not_hasRoom_of_overflow countable (Bool.not_eq_true _ ▸ overflow) room
  · exact t.hasRoom_of_hasFiniteSide countable

end Tiling

/-- A grid that there is room for has counts of columns and rows that are converted as they are. -/
theorem Evidence.countable_of_create {plan : EvidencePlan Float} {e : Evidence plan}
    (created : Evidence.create plan = .ok e) : plan.tiling.Countable := by
  unfold create at created
  split at created
  · rename_i small
    have columns := Nat.le_mul_of_pos_left plan.tiling.columns plan.tiling.rows_pos
    have rows := Nat.le_mul_of_pos_right plan.tiling.rows plan.tiling.columns_pos
    rw [greatestSize] at small
    exact ⟨by omega, by omega⟩
  · cases created

end Sightline
