import Sightline.Proofs.Plane.Chord

/-!
# Feet of perpendiculars

The foot of a point on the line through a segment is the point of the line to which one goes straight
across.  No other point of the line is as near, so the way to the foot is the distance from the line.
The middle of a crossing is the foot of the centre of the disc, and whoever goes a share of the way
towards the foot keeps it.
-/

set_option autoImplicit false

namespace Sightline

namespace Point

theorem norm_nonneg (p : Point ℝ) : 0 ≤ p.norm := Real.sqrt_nonneg _

theorem dot_exact (p q : Point ℝ) : p.dot q = p.x * q.x + p.y * q.y := rfl

theorem norm_sq (p : Point ℝ) : p.norm ^ 2 = p.x ^ 2 + p.y ^ 2 := by
  have same : p.norm = √(p.x * p.x + p.y * p.y) := rfl
  rw [same, Real.sq_sqrt (add_nonneg (mul_self_nonneg _) (mul_self_nonneg _)), sq, sq]

theorem eq_of_norm_sub {p q : Point ℝ} (none : (p - q).norm = 0) : p = q := by
  have squares := (p - q).norm_sq
  rw [none, zero_pow two_ne_zero, sq, sq, eq_comm, mul_self_add_mul_self_eq_zero] at squares
  exact congrArg₂ mk (sub_eq_zero.1 squares.1) (sub_eq_zero.1 squares.2)

theorem norm_of_sq {p q : Point ℝ} {factor : ℝ} (squares : p.norm ^ 2 = factor ^ 2 * q.norm ^ 2) :
    p.norm = |factor| * q.norm := by
  have nonneg : 0 ≤ |factor| * q.norm := mul_nonneg (abs_nonneg factor) q.norm_nonneg
  rw [← sq_eq_sq₀ p.norm_nonneg nonneg, squares, mul_pow, sq_abs]

/-- The point a share of the way from one point to another. -/
noncomputable def towards (p q : Point ℝ) (share : ℝ) : Point ℝ := p + (q - p).scale share

/-- Who has gone a share of the way has gone that share of its length. -/
theorem norm_towards_sub (p q : Point ℝ) (share : ℝ) :
    (p.towards q share - p).norm = |share| * (q - p).norm := by
  apply norm_of_sq
  rw [norm_sq, norm_sq]
  change (p.x + (q.x - p.x) * share - p.x) ^ 2 + (p.y + (q.y - p.y) * share - p.y) ^ 2 =
    share ^ 2 * ((q.x - p.x) ^ 2 + (q.y - p.y) ^ 2)
  ring

/-- And has the rest of it before him. -/
theorem norm_sub_towards (p q : Point ℝ) (share : ℝ) :
    (q - p.towards q share).norm = |1 - share| * (q - p).norm := by
  apply norm_of_sq
  rw [norm_sq, norm_sq]
  change (q.x - (p.x + (q.x - p.x) * share)) ^ 2 + (q.y - (p.y + (q.y - p.y) * share)) ^ 2 =
    (1 - share) ^ 2 * ((q.x - p.x) ^ 2 + (q.y - p.y) ^ 2)
  ring

end Point

namespace Segment

/-- The foot of the perpendicular from a point to the line through a segment. -/
structure IsFoot (segment : Segment ℝ) (p foot : Point ℝ) : Prop where
  onLine : ∃ t, foot = segment.pointAt t
  perpendicular : segment.along.dot (foot - p) = 0

/-- The distance of a point from the line through a segment: no point of the line is nearer. -/
noncomputable def lineDistance (segment : Segment ℝ) (p : Point ℝ) : ℝ :=
  ⨅ t : ℝ, (segment.pointAt t - p).norm

variable {segment : Segment ℝ} {p foot : Point ℝ}

namespace IsFoot

variable (isFoot : segment.IsFoot p foot)

include isFoot

/-- The theorem of Pythagoras. -/
theorem norm_sq_pointAt (t : ℝ) :
    (segment.pointAt t - p).norm ^ 2 = (foot - p).norm ^ 2 + (segment.pointAt t - foot).norm ^ 2 := by
  obtain ⟨⟨s, rfl⟩, perpendicular⟩ := isFoot
  rw [Point.dot_exact] at perpendicular
  rw [Point.norm_sq, Point.norm_sq, Point.norm_sq]
  change segment.along.x * (segment.start.x + segment.along.x * s - p.x) +
    segment.along.y * (segment.start.y + segment.along.y * s - p.y) = 0 at perpendicular
  change (segment.start.x + segment.along.x * t - p.x) ^ 2 +
      (segment.start.y + segment.along.y * t - p.y) ^ 2 =
    (segment.start.x + segment.along.x * s - p.x) ^ 2 +
        (segment.start.y + segment.along.y * s - p.y) ^ 2 +
      ((segment.start.x + segment.along.x * t - (segment.start.x + segment.along.x * s)) ^ 2 +
        (segment.start.y + segment.along.y * t - (segment.start.y + segment.along.y * s)) ^ 2)
  linear_combination 2 * (t - s) * perpendicular

theorem norm_le (t : ℝ) : (foot - p).norm ≤ (segment.pointAt t - p).norm := by
  apply le_of_sq_le_sq _ (Point.norm_nonneg _)
  rw [isFoot.norm_sq_pointAt t]
  exact le_add_of_nonneg_right (sq_nonneg _)

theorem lineDistance_eq : segment.lineDistance p = (foot - p).norm := by
  obtain ⟨s, same⟩ := isFoot.onLine
  apply le_antisymm
  · rw [same]
    exact ciInf_le ⟨0, by rintro _ ⟨t, rfl⟩; exact Point.norm_nonneg _⟩ s
  · exact le_ciInf isFoot.norm_le

/-- On the way to the foot the foot stays the same. -/
theorem towards (share : ℝ) : segment.IsFoot (p.towards foot share) foot := by
  refine ⟨isFoot.onLine, ?_⟩
  have perpendicular := isFoot.perpendicular
  rw [Point.dot_exact] at perpendicular ⊢
  change segment.along.x * (foot.x - p.x) + segment.along.y * (foot.y - p.y) = 0 at perpendicular
  change segment.along.x * (foot.x - (p.x + (foot.x - p.x) * share)) +
    segment.along.y * (foot.y - (p.y + (foot.y - p.y) * share)) = 0
  linear_combination (1 - share) * perpendicular

theorem dot_towards_sub (share : ℝ) : segment.along.dot (p.towards foot share - p) = 0 := by
  have perpendicular := isFoot.perpendicular
  rw [Point.dot_exact] at perpendicular ⊢
  change segment.along.x * (foot.x - p.x) + segment.along.y * (foot.y - p.y) = 0 at perpendicular
  change segment.along.x * (p.x + (foot.x - p.x) * share - p.x) +
    segment.along.y * (p.y + (foot.y - p.y) * share - p.y) = 0
  linear_combination share * perpendicular

/-- There is one foot only. -/
theorem eq {other : Point ℝ} (another : segment.IsFoot p other) : other = foot := by
  obtain ⟨t, same⟩ := another.onLine
  have apart := isFoot.norm_sq_pointAt t
  rw [← same] at apart
  have nearer : (other - p).norm = (foot - p).norm :=
    another.lineDistance_eq.symm.trans isFoot.lineDistance_eq
  rw [nearer, left_eq_add, pow_eq_zero_iff two_ne_zero] at apart
  exact Point.eq_of_norm_sub apart

end IsFoot

end Segment

/-! ## The middle of a crossing -/

namespace Disc

variable {disc : Disc ℝ} {segment : Segment ℝ} {crossing : Crossing ℝ} {t0 t1 : ℝ}

theorem midpoint_pointAt (segment : Segment ℝ) (t0 t1 : ℝ) :
    Segment.midpoint ⟨segment.pointAt t0, segment.pointAt t1⟩ = segment.pointAt ((t0 + t1) / 2) := by
  have axis : ∀ start along : ℝ, start + along * t0 +
      (start + along * t1 - (start + along * t0)) * 0.5 = start + along * ((t0 + t1) / 2) := by
    intro start along
    ring
  exact congrArg₂ Point.mk (axis segment.start.x segment.along.x)
    (axis segment.start.y segment.along.y)

/-- The two roots lie about the parameter of the foot of the centre. -/
theorem Cuts.isFoot (cuts : disc.Cuts segment t0 t1) :
    segment.IsFoot disc.center (segment.pointAt ((t0 + t1) / 2)) := by
  refine ⟨⟨_, rfl⟩, ?_⟩
  have first := (cuts.power 0).symm.trans (disc.power_pointAt segment 0)
  have second := (cuts.power 1).symm.trans (disc.power_pointAt segment 1)
  have toStart : segment.along.dot (segment.pointAt ((t0 + t1) / 2) - disc.center) =
      segment.along.dot (segment.start - disc.center) + segment.along.normSq * ((t0 + t1) / 2) := by
    change segment.along.x * (segment.start.x + segment.along.x * ((t0 + t1) / 2) - disc.center.x) +
        segment.along.y * (segment.start.y + segment.along.y * ((t0 + t1) / 2) - disc.center.y) =
      segment.along.x * (segment.start.x - disc.center.x) +
          segment.along.y * (segment.start.y - disc.center.y) +
        (segment.along.x * segment.along.x + segment.along.y * segment.along.y) * ((t0 + t1) / 2)
    ring
  rw [toStart]
  linear_combination (first - second) / 2

theorem exists_cuts (crossed : disc.crossing? segment = some crossing) :
    ∃ t0 t1, disc.Cuts segment t0 t1 ∧
      crossing = ⟨t0, t1, segment.pointAt t0, segment.pointAt t1⟩ := by
  have long := long_of_crossing (Option.isSome_of_mem crossed)
  rcases crossing?_cases long with ⟨_, missed⟩ | ⟨t0, t1, cuts, ⟨_, _, same⟩ | ⟨_, missed⟩⟩
  · rw [missed] at crossed
    cases crossed
  · rw [same] at crossed
    cases crossed
    exact ⟨t0, t1, cuts, rfl⟩
  · rw [missed] at crossed
    cases crossed

theorem isFoot_midpoint (crossed : disc.crossing? segment = some crossing) :
    segment.IsFoot disc.center crossing.midpoint := by
  obtain ⟨t0, t1, cuts, rfl⟩ := exists_cuts crossed
  rw [Crossing.midpoint, midpoint_pointAt]
  exact cuts.isFoot

/-- Half way between the roots the power is not above zero. -/
theorem norm_midpoint_sub_le (crossed : disc.crossing? segment = some crossing) :
    (crossing.midpoint - disc.center).norm ≤ |disc.radius| := by
  obtain ⟨t0, t1, cuts, rfl⟩ := exists_cuts crossed
  rw [Crossing.midpoint, midpoint_pointAt]
  have inside : disc.power (segment.pointAt ((t0 + t1) / 2)) ≤ 0 := by
    have halves : disc.power (segment.pointAt ((t0 + t1) / 2)) =
        -(segment.along.normSq * ((t1 - t0) / 2) ^ 2) := by
      rw [cuts.power]
      ring
    rw [halves, Left.neg_nonpos_iff]
    exact mul_nonneg cuts.leading.le (sq_nonneg _)
  apply abs_le_of_sq_le_sq' _ (abs_nonneg _) |>.2
  rw [sq_abs]
  exact sub_nonpos.1 inside

end Disc

end Sightline
