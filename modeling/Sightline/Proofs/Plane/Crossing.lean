import Sightline.Plane.Disc
import Sightline.Proofs.Scalar.Lawful

/-!
# What crosses a disc

Only a segment with finite ends has a crossing: an end outside the finite numbers shows in the
discriminant, and from there in both roots.
-/

set_option autoImplicit false

namespace Sightline

variable {α : Type} [Scalar α]

theorem Scalar.lesser_eq_or (a b : α) : lesser a b = a ∨ lesser a b = b := by
  unfold lesser
  split
  · exact .inl rfl
  · split
    · exact .inr rfl
    · exact .inl rfl

/-- A crossing enters and leaves at points of the segment. -/
theorem Disc.crossing?_eq_some {disc : Disc α} {segment : Segment α} {crossing : Crossing α}
    (crossed : disc.crossing? segment = some crossing) :
    onSegment crossing.t0 = true ∧ onSegment crossing.t1 = true ∧
      crossing.entry = segment.pointAt crossing.t0 ∧
      crossing.exit = segment.pointAt crossing.t1 := by
  simp only [crossing?] at crossed
  split at crossed
  · cases crossed
  · split at crossed
    · cases crossed
    · split at crossed
      · rename_i within
        cases crossed
        exact ⟨(Bool.and_eq_true_iff.1 within).1, (Bool.and_eq_true_iff.1 within).2, rfl, rfl⟩
      · cases crossed

variable [StrictScalar α]

namespace Point

variable {p q : Point α}

theorem isFinite_of_sub (finite : (p - q).isFinite = true) :
    p.isFinite = true ∧ q.isFinite = true := by
  obtain ⟨across, up⟩ := Bool.and_eq_true_iff.1 finite
  have finiteX := StrictScalar.finite_of_sub across
  have finiteY := StrictScalar.finite_of_sub up
  exact ⟨Bool.and_eq_true_iff.2 ⟨finiteX.1, finiteY.1⟩,
    Bool.and_eq_true_iff.2 ⟨finiteX.2, finiteY.2⟩⟩

theorem isFinite_of_normSq (finite : Scalar.isFinite p.normSq = true) : p.isFinite = true := by
  obtain ⟨across, up⟩ := StrictScalar.finite_of_add finite
  exact Bool.and_eq_true_iff.2 ⟨(StrictScalar.finite_of_mul across).1,
    (StrictScalar.finite_of_mul up).1⟩

end Point

namespace Disc

variable {disc : Disc α} {segment : Segment α} {a b c t t0 t1 : α}

theorem isFinite_of_onSegment (on : onSegment t = true) : Scalar.isFinite t = true := by
  obtain ⟨above, below⟩ := Bool.and_eq_true_iff.1 on
  exact StrictScalar.finite_of_unit (of_decide_eq_true above) (of_decide_eq_true below)

theorem isFinite_of_roots (found : roots a b c = some (t0, t1))
    (finite : Scalar.isFinite t0 = true) : Scalar.isFinite a = true := by
  have ofRoot : Scalar.isFinite (Scalar.sqrt (b * b - 4 * a * c)) = true →
      Scalar.isFinite a = true := by
    intro root
    have product := (StrictScalar.finite_of_sub (StrictScalar.finite_of_sqrt root)).2
    exact (StrictScalar.finite_of_mul (StrictScalar.finite_of_mul product).1).2
  simp only [roots] at found
  split at found
  · cases found
  · obtain ⟨first, _⟩ := Prod.mk.inj (Option.some.inj found)
    rcases Scalar.lesser_eq_or ((-b - Scalar.sqrt (b * b - 4 * a * c)) / (2 * a))
      ((-b + Scalar.sqrt (b * b - 4 * a * c)) / (2 * a)) with least | least
    · rw [← first, least] at finite
      exact ofRoot (StrictScalar.finite_of_sub (StrictScalar.finite_of_div finite)).2
    · rw [← first, least] at finite
      exact ofRoot (StrictScalar.finite_of_add (StrictScalar.finite_of_div finite)).2

/-- A crossing has a finite squared length to divide by. -/
theorem isFinite_normSq_of_crossing (crossed : (disc.crossing? segment).isSome = true) :
    Scalar.isFinite ((segment.stop - disc.center) - (segment.start - disc.center)).normSq = true := by
  simp only [crossing?] at crossed
  split at crossed
  · cases crossed
  · split at crossed
    · cases crossed
    · rename_i found
      split at crossed
      · rename_i within
        exact isFinite_of_roots found (isFinite_of_onSegment (Bool.and_eq_true_iff.1 within).1)
      · cases crossed

theorem isFinite_of_crossing (crossed : (disc.crossing? segment).isSome = true) :
    segment.isFinite = true := by
  obtain ⟨stop, start⟩ :=
    Point.isFinite_of_sub (Point.isFinite_of_normSq (isFinite_normSq_of_crossing crossed))
  exact Bool.and_eq_true_iff.2 ⟨(Point.isFinite_of_sub start).1, (Point.isFinite_of_sub stop).1⟩

end Disc

end Sightline
