import Sightline.Proofs.Plane.Chord
import Sightline.Proofs.Scalar.Ordered

/-!
# The way to an entry

Of several discs a ray is taken by the one that it enters nearest to its start, by the squared distance.
On binary64 this may be rounded, and be infinite where the ray is too long to be squared, but it is always
a number: the ray has a finite squared length seen from the centre, so it has a finite length.  In exact
arithmetic it is in the order of the crossing parameters.
-/

set_option autoImplicit false

namespace Sightline

namespace Segment

variable {α : Type} [Scalar α]

/-- How far from its start a ray enters, squared. -/
def wayTo (ray : Segment α) (crossing : Crossing α) : α := (crossing.entry - ray.start).normSq

/-- The ways to all entries of a ray are in the order. -/
def Measured (ray : Segment α) : Prop :=
  ∀ (disc : Disc α) (crossing : Crossing α), disc.crossing? ray = some crossing →
    ray.wayTo crossing ≤ ray.wayTo crossing

end Segment

/-! ## Rounded ways -/

namespace Binary64

open Float.Model Float.Model.UnpackedFloat

variable {a b c d t : Float} {x r : ℚ}

/-- A value of the order: a finite number or an infinity. -/
def IsNumber (a : Float) : Prop := Scalar.isFinite a = true ∨ ∃ s, a.toModel.unpack = .infinity s

theorem RoundsTo.isNumber (rounded : RoundsTo x a) : IsNumber a := by
  by_cases finite : Scalar.isFinite a = true
  · exact .inl finite
  · obtain ⟨s, infinite, _⟩ := rounded.infinite finite
    exact .inr ⟨s, infinite⟩

theorem IsNumber.sub (number : IsNumber a) (finite : Scalar.isFinite b = true) : IsNumber (a - b) := by
  rcases number with finiteToo | ⟨s, infinite⟩
  · exact (sub_roundsTo finiteToo finite).isNumber
  · refine .inr ⟨s, ?_⟩
    change (Float.Model.pack (UnpackedFloat.sub .binary64 a.toModel.unpack b.toModel.unpack)).unpack = _
    have still : UnpackedFloat.sub .binary64 (.infinity s) b.toModel.unpack = .infinity s := by
      obtain ⟨u, same⟩ | ⟨u, m, e, positive, same⟩ := canonical_cases (canonical_of_finite finite) <;>
        simp only [same, UnpackedFloat.sub]
    rw [infinite, still]
    cases s <;> rfl

theorem IsNumber.square_nonneg (number : IsNumber a) : (Scalar.ofNat 0 : Float) ≤ a * a := by
  rcases number with finite | ⟨s, infinite⟩
  · exact (mul_roundsTo finite finite).nonneg (mul_self_nonneg _)
  · refine infinite_pack ?_
    rw [infinite]
    cases s <;> rfl

theorem Rounds.abs_lt_limit (rounds : Rounds x r) (small : |r| < 2 ^ 1024) : |x| < 2 ^ 1024 := by
  have limit : Representable (2 ^ 1024) := .two_zpow (f := 1024) (by norm_num)
  obtain ⟨low, high⟩ := abs_lt.1 small
  refine abs_lt.2 ⟨?_, ?_⟩
  · by_contra below
    exact absurd (rounds.ge_of_ge limit.neg (not_lt.1 below)) (not_le.2 low)
  · by_contra above
    exact absurd (rounds.le_of_le limit (not_lt.1 above)) (not_le.2 high)

theorem abs_sub_value_le (finite : Scalar.isFinite (a - b) = true) :
    |value a - value b - value (a - b)| ≤ 2 ^ (970 : ℤ) := by
  obtain ⟨first, second⟩ := finite_of_sub finite
  have rounds := (sub_roundsTo first second).rounds_of_finite finite
  exact rounds.abs_sub_le (k := 1023) (by norm_num) (rounds.abs_lt_limit (abs_value_lt finite)).le

/-- What is finite when seen from elsewhere, and has a finite square there, is finite. -/
theorem finite_sub_of_seen (finite : Scalar.isFinite (((b - c) - (a - c)) * ((b - c) - (a - c))) = true) :
    Scalar.isFinite (b - a) = true := by
  have seen := (finite_of_mul finite).1
  obtain ⟨stop, start⟩ := finite_of_sub seen
  have rounds := (mul_roundsTo seen seen).rounds_of_finite finite
  have square := rounds.abs_lt_limit (abs_value_lt finite)
  have short : |value ((b - c) - (a - c))| ≤ 2 ^ (970 : ℤ) := by
    have wide : (2 : ℚ) ^ 1024 ≤ (2 ^ (970 : ℤ)) ^ 2 := by
      rw [← zpow_natCast 2 1024, ← zpow_natCast, ← zpow_mul]
      exact two_zpow_le.2 (by norm_num)
    apply abs_le_of_sq_le_sq _ (two_zpow_pos 970).le
    rw [abs_mul_self, ← sq] at square
    exact square.le.trans wide
  have size : |value b - value a| ≤ 2 ^ (972 : ℤ) := by
    obtain ⟨stopLow, stopHigh⟩ := abs_le.1 (abs_sub_value_le stop)
    obtain ⟨startLow, startHigh⟩ := abs_le.1 (abs_sub_value_le start)
    obtain ⟨seenLow, seenHigh⟩ := abs_le.1 (abs_sub_value_le seen)
    obtain ⟨low, high⟩ := abs_le.1 short
    have room : (2 : ℚ) ^ (972 : ℤ) = 2 ^ 2 * 2 ^ (970 : ℤ) := two_zpow_add_nat 2 970
    rw [room, abs_le]
    constructor <;> linarith
  exact ((sub_roundsTo (finite_of_sub stop).1 (finite_of_sub start).1).within (by norm_num) (by norm_num)
    size).1.finite

/-- A share of the way does not overflow. -/
theorem finite_mul_share (finite : Scalar.isFinite d = true) (above : (Scalar.ofNat 0 : Float) ≤ t)
    (below : t ≤ (Scalar.ofNat 1 : Float)) : Scalar.isFinite (d * t) = true := by
  have share := finite_of_unit above below
  rw [nonneg_iff share] at above
  rw [value_le_value share rfl, value_ofNat (by norm_num), Nat.cast_one] at below
  have fits := value_representable finite
  rcases le_total 0 (value d) with forward | backward
  · exact ((mul_roundsTo finite share).finite_of_mem .zero fits neg_limit_lt_zero (value_lt finite)
      (by positivity) (mul_le_of_le_one_right forward below)).1
  · exact ((mul_roundsTo finite share).finite_of_mem fits .zero (neg_lt_value finite) (by positivity)
      (le_mul_of_le_one_right backward below) (mul_nonpos_of_nonpos_of_nonneg backward above)).1

/-- The way along one axis is a number. -/
theorem isNumber_way (along : Scalar.isFinite (b - a) = true) (above : (Scalar.ofNat 0 : Float) ≤ t)
    (below : t ≤ (Scalar.ofNat 1 : Float)) : IsNumber (a + (b - a) * t - a) := by
  have start := (finite_of_sub along).2
  exact (add_roundsTo start (finite_mul_share along above below)).isNumber.sub start

end Binary64

theorem Segment.measured_binary64 (ray : Segment Float) : ray.Measured := by
  intro disc crossing crossed
  have square := Disc.isFinite_normSq_of_crossing (Option.isSome_of_mem crossed)
  obtain ⟨across, up⟩ := Binary64.finite_of_add square
  obtain ⟨entered, _, entry, _⟩ := Disc.crossing?_eq_some crossed
  obtain ⟨above, below⟩ := Bool.and_eq_true_iff.1 entered
  have x := Binary64.isNumber_way (Binary64.finite_sub_of_seen across) (of_decide_eq_true above)
    (of_decide_eq_true below)
  have y := Binary64.isNumber_way (Binary64.finite_sub_of_seen up) (of_decide_eq_true above)
    (of_decide_eq_true below)
  rw [wayTo, entry]
  exact Binary64.le_self_of_le (Binary64.add_nonneg x.square_nonneg y.square_nonneg)

/-! ## Exact ways -/

namespace Segment

variable {ray : Segment ℝ} {disc other : Disc ℝ} {crossing passing : Crossing ℝ}

theorem measured_exact (ray : Segment ℝ) : ray.Measured := fun _ _ _ => le_rfl

theorem wayTo_eq (crossed : disc.crossing? ray = some crossing) :
    ray.wayTo crossing = ray.along.normSq * crossing.t0 ^ 2 := by
  obtain ⟨_, _, entry, _⟩ := Disc.crossing?_eq_some crossed
  rw [wayTo, entry]
  change (ray.start.x + ray.along.x * crossing.t0 - ray.start.x) *
        (ray.start.x + ray.along.x * crossing.t0 - ray.start.x) +
      (ray.start.y + ray.along.y * crossing.t0 - ray.start.y) *
        (ray.start.y + ray.along.y * crossing.t0 - ray.start.y) =
    (ray.along.x * ray.along.x + ray.along.y * ray.along.y) * crossing.t0 ^ 2
  ring

/-- What is entered nearer to the start is entered earlier along the ray. -/
theorem wayTo_lt_wayTo (crossed : disc.crossing? ray = some crossing)
    (passed : other.crossing? ray = some passing) :
    ray.wayTo crossing < ray.wayTo passing ↔ crossing.t0 < passing.t0 := by
  have long : 0 < ray.along.normSq :=
    lt_trans (by norm_num) (Disc.long_of_crossing (Option.isSome_of_mem crossed))
  have first := ((Disc.onSegment_iff _).1 (Disc.crossing?_eq_some crossed).1).1
  have second := ((Disc.onSegment_iff _).1 (Disc.crossing?_eq_some passed).1).1
  rw [wayTo_eq crossed, wayTo_eq passed, mul_lt_mul_iff_right₀ long, sq_lt_sq₀ first second]

theorem wayTo_le_wayTo (crossed : disc.crossing? ray = some crossing)
    (passed : other.crossing? ray = some passing) :
    ray.wayTo crossing ≤ ray.wayTo passing ↔ crossing.t0 ≤ passing.t0 := by
  rw [← not_lt, wayTo_lt_wayTo passed crossed, not_lt]

end Segment

end Sightline
