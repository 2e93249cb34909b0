import Mathlib.Tactic.LinearCombination
import Sightline.Proofs.Plane.Crossing
import Sightline.Proofs.Scalar.Exact

/-!
# Crossings are chords

In exact arithmetic the power of a point, its squared distance from the centre less the squared
radius, is a quadratic along a segment.  The crossing parameters are its zeros, and its sign tells
what of the segment lies inside the circle.
-/

set_option autoImplicit false

namespace Sightline

namespace Segment

theorem pointAt_zero (segment : Segment ℝ) : segment.pointAt 0 = segment.start := by
  have x : segment.start.x + (segment.stop.x - segment.start.x) * 0 = segment.start.x := by ring
  have y : segment.start.y + (segment.stop.y - segment.start.y) * 0 = segment.start.y := by ring
  exact congrArg₂ Point.mk x y

theorem pointAt_one (segment : Segment ℝ) : segment.pointAt 1 = segment.stop := by
  have x : segment.start.x + (segment.stop.x - segment.start.x) * 1 = segment.stop.x := by ring
  have y : segment.start.y + (segment.stop.y - segment.start.y) * 1 = segment.stop.y := by ring
  exact congrArg₂ Point.mk x y

/-- A segment is as long when seen from anywhere. -/
theorem along_seen (segment : Segment ℝ) (p : Point ℝ) :
    (segment.stop - p) - (segment.start - p) = segment.along := by
  have x : segment.stop.x - p.x - (segment.start.x - p.x) = segment.stop.x - segment.start.x := by ring
  have y : segment.stop.y - p.y - (segment.start.y - p.y) = segment.stop.y - segment.start.y := by ring
  exact congrArg₂ Point.mk x y

end Segment

namespace Disc

/-! ## Roots -/

section Roots

variable {a b c t t0 t1 : ℝ}

theorem roots_exact (a b c : ℝ) : roots a b c =
    if b * b - 4 * a * c < 0 then none
    else some (min ((-b - √(b * b - 4 * a * c)) / (2 * a)) ((-b + √(b * b - 4 * a * c)) / (2 * a)),
      max ((-b - √(b * b - 4 * a * c)) / (2 * a)) ((-b + √(b * b - 4 * a * c)) / (2 * a))) := by
  rw [← Exact.lesser_eq_min, ← Exact.greater_eq_max, ← Exact.zero_eq]
  rfl

/-- Where there are no roots the quadratic stays above zero. -/
theorem pos_of_roots_eq_none (leading : 0 < a) (rootless : roots a b c = none) (t : ℝ) :
    0 < a * t ^ 2 + b * t + c := by
  rw [roots_exact] at rootless
  split at rootless
  · rename_i negative
    have completed : 4 * a * (a * t ^ 2 + b * t + c) = (2 * a * t + b) ^ 2 - (b * b - 4 * a * c) := by
      ring
    have product : 0 < 4 * a * (a * t ^ 2 + b * t + c) := by
      rw [completed]
      linarith [sq_nonneg (2 * a * t + b)]
    exact pos_of_mul_pos_right product (by positivity)
  · cases rootless

theorem roots_eq_some (leading : 0 < a) (found : roots a b c = some (t0, t1)) :
    t0 ≤ t1 ∧ ∀ t, a * t ^ 2 + b * t + c = a * ((t - t0) * (t - t1)) := by
  rw [roots_exact] at found
  split at found
  · cases found
  · rename_i notNegative
    obtain ⟨first, second⟩ := Prod.mk.inj (Option.some.inj found)
    have nonneg := Real.sqrt_nonneg (b * b - 4 * a * c)
    have square := Real.sq_sqrt (not_lt.1 notNegative)
    have inOrder : (-b - √(b * b - 4 * a * c)) / (2 * a) ≤ (-b + √(b * b - 4 * a * c)) / (2 * a) :=
      div_le_div_of_nonneg_right (by linarith) (by positivity)
    rw [min_eq_left inOrder] at first
    rw [max_eq_right inOrder] at second
    subst first second
    refine ⟨inOrder, fun t => ?_⟩
    generalize √(b * b - 4 * a * c) = root at square
    field_simp
    linear_combination square

end Roots

/-! ## The power of a point -/

/-- How far a point is from the centre. -/
noncomputable def distance (disc : Disc ℝ) (p : Point ℝ) : ℝ := (p - disc.center).norm

/-- The power of a point with respect to the circle: below zero inside, zero on it. -/
noncomputable def power (disc : Disc ℝ) (p : Point ℝ) : ℝ := disc.distance p ^ 2 - disc.radius ^ 2

variable {disc : Disc ℝ} {segment : Segment ℝ} {p : Point ℝ} {t t0 t1 : ℝ}

theorem distance_nonneg (disc : Disc ℝ) (p : Point ℝ) : 0 ≤ disc.distance p := Real.sqrt_nonneg _

theorem distance_sq (disc : Disc ℝ) (p : Point ℝ) :
    disc.distance p ^ 2 = (p.x - disc.center.x) ^ 2 + (p.y - disc.center.y) ^ 2 := by
  have same : disc.distance p =
      √((p.x - disc.center.x) * (p.x - disc.center.x) + (p.y - disc.center.y) * (p.y - disc.center.y)) :=
    rfl
  rw [same, Real.sq_sqrt (add_nonneg (mul_self_nonneg _) (mul_self_nonneg _)), sq, sq]

theorem power_neg_iff (round : 0 < disc.radius) : disc.power p < 0 ↔ disc.distance p < disc.radius := by
  rw [power, sub_neg, sq_lt_sq₀ (disc.distance_nonneg p) round.le]

theorem power_pos_iff (round : 0 < disc.radius) : 0 < disc.power p ↔ disc.radius < disc.distance p := by
  rw [power, sub_pos, sq_lt_sq₀ round.le (disc.distance_nonneg p)]

theorem power_eq_zero_iff (round : 0 < disc.radius) :
    disc.power p = 0 ↔ disc.distance p = disc.radius := by
  rw [power, sub_eq_zero, sq_eq_sq₀ (disc.distance_nonneg p) round.le]

/-- Along a line the power is a quadratic, that of the crossing. -/
theorem power_pointAt (disc : Disc ℝ) (segment : Segment ℝ) (t : ℝ) :
    disc.power (segment.pointAt t) =
      segment.along.normSq * t ^ 2 + 2 * segment.along.dot (segment.start - disc.center) * t +
        ((segment.start - disc.center).normSq - disc.radius * disc.radius) := by
  rw [power, distance_sq]
  change (segment.start.x + (segment.stop.x - segment.start.x) * t - disc.center.x) ^ 2 +
      (segment.start.y + (segment.stop.y - segment.start.y) * t - disc.center.y) ^ 2 -
      disc.radius ^ 2 =
    ((segment.stop.x - segment.start.x) * (segment.stop.x - segment.start.x) +
        (segment.stop.y - segment.start.y) * (segment.stop.y - segment.start.y)) * t ^ 2 +
      2 * ((segment.stop.x - segment.start.x) * (segment.start.x - disc.center.x) +
        (segment.stop.y - segment.start.y) * (segment.start.y - disc.center.y)) * t +
      ((segment.start.x - disc.center.x) * (segment.start.x - disc.center.x) +
        (segment.start.y - disc.center.y) * (segment.start.y - disc.center.y) -
        disc.radius * disc.radius)
  ring


/-- The circle cuts the line through a segment at two parameters, which may be one. -/
structure Cuts (disc : Disc ℝ) (segment : Segment ℝ) (t0 t1 : ℝ) : Prop where
  leading : 0 < segment.along.normSq
  inOrder : t0 ≤ t1
  power : ∀ t, disc.power (segment.pointAt t) = segment.along.normSq * ((t - t0) * (t - t1))

theorem onSegment_iff (t : ℝ) : onSegment t = true ↔ 0 ≤ t ∧ t ≤ 1 := by
  rw [onSegment, Bool.and_eq_true, decide_eq_true_iff, decide_eq_true_iff]
  exact and_congr (by rw [← Exact.zero_eq]; rfl) (by rw [← Exact.one_eq]; rfl)

theorem shortestSquare_eq : (shortestSquare : ℝ) = 1 / 2 ^ 52 := by
  have quotient : (shortestSquare : ℝ) = ((1 : ℕ) : ℝ) / ((4503599627370496 : ℕ) : ℝ) := rfl
  rw [quotient]
  norm_num

theorem long_of_crossing (crossed : (disc.crossing? segment).isSome = true) :
    1 / 2 ^ 52 < segment.along.normSq := by
  simp only [crossing?, segment.along_seen] at crossed
  split at crossed
  · cases crossed
  · rename_i long
    rw [← shortestSquare_eq]
    exact not_le.1 long

/-- A crossing is where the circle cuts the line, if it does so between the ends. -/
theorem crossing?_cases (long : 1 / 2 ^ 52 < segment.along.normSq) :
    ((∀ t, 0 < disc.power (segment.pointAt t)) ∧ disc.crossing? segment = none) ∨
      ∃ t0 t1, disc.Cuts segment t0 t1 ∧
        ((0 ≤ t0 ∧ t1 ≤ 1 ∧
            disc.crossing? segment = some ⟨t0, t1, segment.pointAt t0, segment.pointAt t1⟩) ∨
          ((t0 < 0 ∨ 1 < t1) ∧ disc.crossing? segment = none)) := by
  have leading : 0 < segment.along.normSq := lt_trans (by norm_num) long
  have quadratic := disc.power_pointAt segment
  rw [← shortestSquare_eq] at long
  simp only [crossing?, segment.along_seen]
  rw [if_neg (not_le.2 long)]
  cases found : roots segment.along.normSq (2 * segment.along.dot (segment.start - disc.center))
      ((segment.start - disc.center).normSq - disc.radius * disc.radius) with
  | none => exact .inl ⟨fun t => quadratic t ▸ pos_of_roots_eq_none leading found t, rfl⟩
  | some both =>
      obtain ⟨t0, t1⟩ := both
      obtain ⟨inOrder, factors⟩ := roots_eq_some leading found
      refine .inr ⟨t0, t1, ⟨leading, inOrder, fun t => (quadratic t).trans (factors t)⟩, ?_⟩
      by_cases between : 0 ≤ t0 ∧ t1 ≤ 1
      · have entry := (onSegment_iff t0).2 ⟨between.1, inOrder.trans between.2⟩
        have exit := (onSegment_iff t1).2 ⟨between.1.trans inOrder, between.2⟩
        exact .inl ⟨between.1, between.2, by simp only [entry, exit, Bool.and_self, if_true]⟩
      · have beyond : ¬ (onSegment t0 && onSegment t1) = true := by
          rw [Bool.and_eq_true, onSegment_iff, onSegment_iff]
          exact fun both => between ⟨both.1.1, both.2.2⟩
        refine .inr ⟨?_, by dsimp only; rw [if_neg beyond]⟩
        rwa [not_and_or, not_le, not_le] at between

namespace Cuts

variable (cuts : disc.Cuts segment t0 t1)

include cuts

theorem power_neg_iff : disc.power (segment.pointAt t) < 0 ↔ t0 < t ∧ t < t1 := by
  have inOrder := cuts.inOrder
  rw [cuts.power, ← neg_pos, ← mul_neg, mul_pos_iff_of_pos_left cuts.leading, neg_pos, mul_neg_iff,
    sub_pos, sub_neg, sub_neg, sub_pos]
  constructor
  · rintro (within | ⟨before, after⟩)
    · exact within
    · exact absurd (before.trans_le inOrder) after.not_gt
  · exact .inl

theorem power_pos_iff : 0 < disc.power (segment.pointAt t) ↔ t < t0 ∨ t1 < t := by
  have inOrder := cuts.inOrder
  rw [cuts.power, mul_pos_iff_of_pos_left cuts.leading, mul_pos_iff, sub_pos, sub_neg, sub_neg, sub_pos]
  constructor
  · rintro (⟨_, after⟩ | ⟨before, _⟩)
    · exact .inr after
    · exact .inl before
  · rintro (before | after)
    · exact .inr ⟨before, before.trans_le inOrder⟩
    · exact .inl ⟨inOrder.trans_lt after, after⟩

theorem power_left : disc.power (segment.pointAt t0) = 0 := by
  rw [cuts.power, sub_self, zero_mul, mul_zero]

theorem power_right : disc.power (segment.pointAt t1) = 0 := by
  rw [cuts.power, sub_self, mul_zero, mul_zero]

end Cuts

/-- A segment that starts or stops inside does not cross. -/
theorem crossing?_of_inside (round : 0 < disc.radius) (long : 1 / 2 ^ 52 < segment.along.normSq)
    (inside : disc.distance segment.start < disc.radius ∨ disc.distance segment.stop < disc.radius) :
    disc.crossing? segment = none := by
  rcases crossing?_cases long with ⟨_, missed⟩ | ⟨t0, t1, cuts, ⟨first, last, _⟩ | ⟨_, missed⟩⟩
  · exact missed
  · rw [← power_neg_iff round, ← power_neg_iff round, ← Segment.pointAt_zero, ← Segment.pointAt_one,
      cuts.power_neg_iff, cuts.power_neg_iff] at inside
    rcases inside with start | stop
    · exact absurd start.1 first.not_gt
    · exact absurd stop.2 last.not_gt
  · exact missed

/-- Between ends outside, a segment crosses exactly if it touches. -/
theorem isSome_crossing?_iff (round : 0 < disc.radius) (long : 1 / 2 ^ 52 < segment.along.normSq)
    (start : disc.radius < disc.distance segment.start)
    (stop : disc.radius < disc.distance segment.stop) :
    (disc.crossing? segment).isSome = true ↔
      ∃ t, 0 ≤ t ∧ t ≤ 1 ∧ disc.distance (segment.pointAt t) ≤ disc.radius := by
  rw [← power_pos_iff round, ← Segment.pointAt_zero] at start
  rw [← power_pos_iff round, ← Segment.pointAt_one] at stop
  rcases crossing?_cases long with ⟨apart, missed⟩ | ⟨t0, t1, cuts, ⟨first, last, crossed⟩ | ⟨beyond, missed⟩⟩
  · rw [missed]
    refine iff_of_false Bool.false_ne_true ?_
    rintro ⟨t, _, _, touches⟩
    exact touches.not_gt ((power_pos_iff round).1 (apart t))
  · rw [crossed]
    refine iff_of_true rfl ⟨t0, first, cuts.inOrder.trans last, ?_⟩
    exact ((power_eq_zero_iff round).1 cuts.power_left).le
  · rw [missed]
    refine iff_of_false Bool.false_ne_true ?_
    rintro ⟨t, first, last, touches⟩
    rw [← not_lt, ← power_pos_iff round, cuts.power_pos_iff, not_or, not_lt, not_lt] at touches
    rw [cuts.power_pos_iff] at start stop
    rcases beyond with early | late
    · rcases start with ahead | behind <;> linarith
    · rcases stop with ahead | behind <;> linarith

/-- What geometry says of a crossing. -/
structure IsChord (disc : Disc ℝ) (segment : Segment ℝ) (crossing : Crossing ℝ) : Prop where
  first : 0 ≤ crossing.t0
  inOrder : crossing.t0 ≤ crossing.t1
  last : crossing.t1 ≤ 1
  entry : crossing.entry = segment.pointAt crossing.t0
  exit : crossing.exit = segment.pointAt crossing.t1
  enters : disc.distance crossing.entry = disc.radius
  leaves : disc.distance crossing.exit = disc.radius
  inside : ∀ t, 0 ≤ t → t ≤ 1 →
    (disc.distance (segment.pointAt t) < disc.radius ↔ crossing.t0 < t ∧ t < crossing.t1)

theorem isChord_of_crossing (round : 0 < disc.radius) (long : 1 / 2 ^ 52 < segment.along.normSq)
    {crossing : Crossing ℝ} (crossed : disc.crossing? segment = some crossing) :
    disc.IsChord segment crossing := by
  rcases crossing?_cases long with ⟨_, missed⟩ | ⟨t0, t1, cuts, ⟨first, last, same⟩ | ⟨_, missed⟩⟩
  · rw [missed] at crossed
    cases crossed
  · rw [same] at crossed
    cases crossed
    exact
      { first := first
        inOrder := cuts.inOrder
        last := last
        entry := rfl
        exit := rfl
        enters := (power_eq_zero_iff round).1 cuts.power_left
        leaves := (power_eq_zero_iff round).1 cuts.power_right
        inside := fun t _ _ => (power_neg_iff round).symm.trans cuts.power_neg_iff }
  · rw [missed] at crossed
    cases crossed

/-- In exact arithmetic a crossing is a chord: there is none from or to the inside, between ends outside
there is one exactly where the segment comes within the radius, and all of a crossing but its ends,
and nothing else of the segment, lies inside. -/
theorem crossing_is_chord (round : 0 < disc.radius) (long : 1 / 2 ^ 52 < segment.along.normSq) :
    (disc.distance segment.start < disc.radius ∨ disc.distance segment.stop < disc.radius →
      disc.crossing? segment = none) ∧
    (disc.radius < disc.distance segment.start → disc.radius < disc.distance segment.stop →
      ((disc.crossing? segment).isSome = true ↔
        ∃ t, 0 ≤ t ∧ t ≤ 1 ∧ disc.distance (segment.pointAt t) ≤ disc.radius)) ∧
    ∀ crossing, disc.crossing? segment = some crossing → disc.IsChord segment crossing :=
  ⟨crossing?_of_inside round long, isSome_crossing?_iff round long,
    fun _ crossed => isChord_of_crossing round long crossed⟩

/-- Two metres straight through the middle of a disc. -/
noncomputable def plate : Disc ℝ := ⟨⟨1, 1⟩, 3 / 5⟩

noncomputable def across : Segment ℝ := ⟨⟨0, 1⟩, ⟨2, 1⟩⟩

theorem across_distance (t : ℝ) : plate.distance (across.pointAt t) ^ 2 = (2 * t - 1) ^ 2 := by
  rw [distance_sq]
  change (0 + (2 - 0) * t - 1) ^ 2 + (1 + (1 - 1) * t - 1) ^ 2 = (2 * t - 1) ^ 2
  ring

theorem across_is_chord : 0 < plate.radius ∧ 1 / 2 ^ 52 < across.along.normSq ∧
    ∃ crossing, plate.crossing? across = some crossing ∧ plate.IsChord across crossing ∧
      crossing.t0 < 1 / 2 ∧ 1 / 2 < crossing.t1 := by
  have round : 0 < plate.radius := by norm_num [plate]
  have long : 1 / 2 ^ 52 < across.along.normSq := by
    norm_num [across, Segment.along, Point.normSq, Point.dot]
  have start : plate.radius < plate.distance across.start := by
    rw [← power_pos_iff round, ← Segment.pointAt_zero, power, across_distance]
    norm_num [plate]
  have stop : plate.radius < plate.distance across.stop := by
    rw [← power_pos_iff round, ← Segment.pointAt_one, power, across_distance]
    norm_num [plate]
  have middle : plate.distance (across.pointAt (1 / 2)) < plate.radius := by
    rw [← power_neg_iff round, power, across_distance]
    norm_num [plate]
  obtain ⟨_, touches, chord⟩ := crossing_is_chord round long
  have half : (0 : ℝ) ≤ 1 / 2 ∧ (1 / 2 : ℝ) ≤ 1 := by norm_num
  obtain ⟨crossing, crossed⟩ := Option.isSome_iff_exists.1
    ((touches start stop).2 ⟨1 / 2, half.1, half.2, middle.le⟩)
  have passes := ((chord crossing crossed).inside (1 / 2) half.1 half.2).1 middle
  exact ⟨round, long, crossing, crossed, chord crossing crossed, passes⟩

end Disc

end Sightline
