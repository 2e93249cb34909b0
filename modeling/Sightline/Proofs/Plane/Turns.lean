import Mathlib.Tactic.Ring
import Sightline.Plane.Placement
import Sightline.Scalar.Exact

/-!
# Turns by an angle

Exact numbers with any two functions for the cosine and the sine that keep to the unit circle and add up
as angles do.  That is enough for turns to add up, for one mounting after another to turn by the sum of
both headings, and for a turned ray to be as long as before.
-/

set_option autoImplicit false

namespace Sightline

/-- A cosine and a sine, of which nothing else is known. -/
structure Circular where
  cos : ℝ → ℝ
  sin : ℝ → ℝ
  unit : ∀ angle, cos angle ^ 2 + sin angle ^ 2 = 1
  cos_add : ∀ a b, cos (a + b) = cos a * cos b - sin a * sin b
  sin_add : ∀ a b, sin (a + b) = sin a * cos b + cos a * sin b

/-- The direction of an angle in degrees. -/
def Point.ofDegrees {α : Type} [Scalar α] (degrees : α) : Point α :=
  ⟨Scalar.cos (Scalar.radians degrees), Scalar.sin (Scalar.radians degrees)⟩

namespace Circular

/-- The exact numbers, with a cosine and a sine of their own. -/
def Number (_ : Circular) : Type := ℝ

noncomputable instance (c : Circular) : Scalar c.Number :=
  { (inferInstance : Scalar ℝ) with cos := c.cos, sin := c.sin }

noncomputable instance (c : Circular) : Field c.Number := inferInstanceAs (Field ℝ)

/-- The cosine and the sine. -/
noncomputable def standard : Circular where
  cos := Real.cos
  sin := Real.sin
  unit := Real.cos_sq_add_sin_sq
  cos_add := Real.cos_add
  sin_add := Real.sin_add

variable {c : Circular}

theorem zero_eq : (Scalar.ofNat 0 : c.Number) = 0 := Nat.cast_zero

theorem radians_add (a b : c.Number) :
    Scalar.radians (a + b) = Scalar.radians a + Scalar.radians b := by
  unfold Scalar.radians
  ring

/-! ## Rotations -/

theorem ofDegrees_add (a b : c.Number) :
    Rotation.ofDegrees (a + b) = (Rotation.ofDegrees a).comp (Rotation.ofDegrees b) := by
  unfold Rotation.ofDegrees Rotation.comp
  rw [radians_add]
  refine congrArg₂ Rotation.mk (c.cos_add _ _) ((c.sin_add _ _).trans ?_)
  exact add_comm (c.sin _ * c.cos _) _

theorem tip_eq (r : Rotation c.Number) (reach : c.Number) :
    r.tip reach = (⟨r.cos, r.sin⟩ : Point c.Number).scale reach := by
  have across : r.cos * reach + -r.sin * Scalar.ofNat 0 = r.cos * reach := by
    rw [zero_eq]
    ring
  have up : r.sin * reach + r.cos * Scalar.ofNat 0 = r.sin * reach := by
    rw [zero_eq]
    ring
  exact congrArg₂ Point.mk across up

theorem turn_tip (outer inner : Rotation c.Number) (reach : c.Number) :
    outer.turn (inner.tip reach) = (outer.comp inner).tip reach := by
  rw [tip_eq, tip_eq]
  unfold Rotation.turn Rotation.comp Point.scale
  congr 1
  · ring
  · ring

/-! ## Placements -/

theorem carry_origin (placement : Placement c.Number) :
    placement.carry ⟨Scalar.ofNat 0, Scalar.ofNat 0⟩ = placement.shift := by
  rw [zero_eq]
  have across : placement.rotation.cos * 0 - placement.rotation.sin * 0 + placement.shift.x =
      placement.shift.x := by
    ring
  have up : placement.rotation.sin * 0 + placement.rotation.cos * 0 + placement.shift.y =
      placement.shift.y := by
    ring
  exact congrArg₂ Point.mk across up

theorem carry_tip (placement : Placement c.Number) (angle reach : c.Number) :
    placement.carry ((Rotation.ofDegrees angle).tip reach) =
      (placement.rotation.comp (Rotation.ofDegrees angle)).tip reach + placement.shift := by
  rw [← turn_tip]
  rfl

/-- Something mounted on something mounted is turned by both headings, and by what it turns itself. -/
theorem rotation_mounted (outer inner : Pose c.Number) (angle : c.Number) :
    (outer.placement.comp inner.placement).rotation.comp (Rotation.ofDegrees angle) =
      Rotation.ofDegrees (outer.heading + inner.heading + angle) := by
  rw [ofDegrees_add, ofDegrees_add]
  rfl

theorem shift_mounted (outer inner : Pose c.Number) :
    (outer.placement.comp inner.placement).shift =
      ⟨outer.x + ((Point.ofDegrees outer.heading).x * inner.x - (Point.ofDegrees outer.heading).y * inner.y),
        outer.y + ((Point.ofDegrees outer.heading).y * inner.x + (Point.ofDegrees outer.heading).x * inner.y)⟩ :=
  rfl

/-! ## Lengths -/

theorem dot_ofDegrees (angle : c.Number) : (Point.ofDegrees angle).dot (Point.ofDegrees angle) = 1 := by
  have unit : ∀ a : ℝ, c.cos a * c.cos a + c.sin a * c.sin a = 1 := by
    intro a
    rw [← sq, ← sq]
    exact c.unit a
  exact unit _

theorem norm_ofDegrees_scale (angle : c.Number) {reach : c.Number} (positive : 0 < reach) :
    ((Point.ofDegrees angle).scale reach).norm = reach := by
  have square : ((Point.ofDegrees angle).scale reach).normSq = reach * reach := by
    calc ((Point.ofDegrees angle).scale reach).normSq
        = (Point.ofDegrees angle).dot (Point.ofDegrees angle) * (reach * reach) := by
          unfold Point.normSq Point.dot Point.scale
          ring
      _ = reach * reach := by rw [dot_ofDegrees, one_mul]
  have nonneg : (0 : ℝ) ≤ reach := le_of_lt positive
  rw [Point.norm, square]
  exact Real.sqrt_mul_self nonneg

end Circular

end Sightline
