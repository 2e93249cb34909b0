import Sightline.Proofs.Scalar.Exact
import Sightline.Proofs.Scalar.Sizes

/-!
# Values of the order

A value is in the order if it compares with itself.  In binary64 all are but the one that is not a
number; that one never leaves a sum, and a product with zero is zero or that one.
-/

set_option autoImplicit false

namespace Sightline

def Scalar.Ordered {α : Type} [Scalar α] (a : α) : Prop := a ≤ a

instance {α : Type} [Scalar α] (a : α) : Decidable (Scalar.Ordered a) :=
  inferInstanceAs (Decidable (a ≤ a))

/-- Numbers of which only values of the order compare. -/
class ComparingScalar (α : Type) [Scalar α] : Prop where
  ordered_of_lt {a b : α} : a < b → Scalar.Ordered b

instance : ComparingScalar ℝ where
  ordered_of_lt := fun {_ b} _ => le_refl b

namespace Binary64

open Float.Model Float.Model.UnpackedFloat

variable {a b : Float}

theorem le_self_of_le (le : a ≤ b) : b ≤ b := by
  rw [le_iff, unpacked_le_iff] at *
  obtain ⟨_, q, _, ranked, _⟩ := le
  exact ⟨q, q, ranked, ranked, le_rfl⟩

theorem ordered_iff : Scalar.Ordered a ↔ a.toModel.unpack ≠ .notANumber := by
  change a ≤ a ↔ _
  rw [le_iff, unpacked_le_iff]
  constructor
  · rintro ⟨p, _, ranked, _⟩ outside
    rw [outside] at ranked
    cases ranked
  · intro number
    cases unpacked : a.toModel.unpack with
    | notANumber => exact absurd unpacked number
    | infinity s => cases s <;> exact ⟨_, _, rfl, rfl, le_rfl⟩
    | zero s => exact ⟨_, _, rfl, rfl, le_rfl⟩
    | finite s m e positive => cases s <;> exact ⟨_, _, rfl, rfl, le_rfl⟩

theorem unpack_add (a b : Float) : (a + b).toModel.unpack =
    (Float.Model.pack (UnpackedFloat.add .binary64 a.toModel.unpack b.toModel.unpack)).unpack :=
  rfl

theorem unpack_mul (a b : Float) : (a * b).toModel.unpack =
    (Float.Model.pack (UnpackedFloat.mul .binary64 a.toModel.unpack b.toModel.unpack)).unpack :=
  rfl

theorem ordered_of_add (ordered : Scalar.Ordered (a + b)) : Scalar.Ordered a ∧ Scalar.Ordered b := by
  rw [ordered_iff, unpack_add] at ordered
  rw [ordered_iff, ordered_iff]
  constructor
  · intro outside
    rw [outside, UnpackedFloat.add] at ordered
    exact ordered rfl
  · intro outside
    have sum : UnpackedFloat.add .binary64 a.toModel.unpack .notANumber = .notANumber := by
      cases a.toModel.unpack <;> simp [UnpackedFloat.add]
    rw [outside, sum] at ordered
    exact ordered rfl

theorem nonneg_of_mul_zero (ordered : Scalar.Ordered (a * Scalar.ofNat 0)) :
    (Scalar.ofNat 0 : Float) ≤ a * Scalar.ofNat 0 := by
  rw [ordered_iff, unpack_mul, unpack_zero] at ordered
  rw [le_iff, unpack_mul, unpack_zero]
  cases unpacked : a.toModel.unpack with
  | infinity s =>
      rw [unpacked, UnpackedFloat.mul] at ordered
      exact absurd rfl ordered
  | notANumber =>
      rw [unpacked, UnpackedFloat.mul] at ordered
      exact absurd rfl ordered
  | zero s => cases s <;> decide
  | finite s m e positive =>
      rw [UnpackedFloat.mul]
      cases s <;> decide

/-- Nothing of the order is below the lowest value, and nothing but it is not above it. -/
theorem eq_lowest (ordered : Scalar.Ordered a) (notAbove : ¬ (Scalar.lowest : Float) < a) :
    a = Scalar.lowest := by
  rw [ordered_iff] at ordered
  have lowest : (Scalar.lowest : Float).toModel.unpack = .infinity .negative := rfl
  rw [lt_iff, lowest] at notAbove
  cases unpacked : a.toModel.unpack with
  | notANumber => exact absurd unpacked ordered
  | zero s =>
      rw [unpacked] at notAbove
      exact absurd rfl notAbove
  | finite s m e positive =>
      rw [unpacked] at notAbove
      cases s <;> exact absurd rfl notAbove
  | infinity s =>
      cases s with
      | positive =>
          rw [unpacked] at notAbove
          exact absurd rfl notAbove
      | negative =>
          have packed := model_pack_unpack a.toModel
          rw [unpacked] at packed
          change Float.ofModel a.toModel = _
          rw [← packed]
          rfl

theorem ordered_of_foldl_add {values : List Float} {start : Float}
    (ordered : Scalar.Ordered (values.foldl (· + ·) start)) : Scalar.Ordered start := by
  induction values generalizing start with
  | nil => exact ordered
  | cons value rest ih => exact (ordered_of_add (ih ordered)).1

/-- A sum over values none of which is below zero is not below zero, if it is a number at all. -/
theorem foldl_add_nonneg {values : List Float} {start : Float}
    (nonneg : (Scalar.ofNat 0 : Float) ≤ start)
    (notBelow : ∀ value ∈ values, ¬ value < (Scalar.ofNat 0 : Float))
    (ordered : Scalar.Ordered (values.foldl (· + ·) start)) :
    (Scalar.ofNat 0 : Float) ≤ values.foldl (· + ·) start := by
  induction values generalizing start with
  | nil => exact nonneg
  | cons value rest ih =>
      have later : ∀ other ∈ rest, ¬ other < (Scalar.ofNat 0 : Float) := fun other member =>
        notBelow other (List.mem_cons_of_mem value member)
      have sum : Scalar.Ordered (start + value) := ordered_of_foldl_add ordered
      have first := le_of_not_lt (ordered_of_add sum).2 (le_refl_of_finite zero_finite)
        (notBelow value List.mem_cons_self)
      exact ih (add_nonneg nonneg first) later ordered

end Binary64

instance : ComparingScalar Float where
  ordered_of_lt := fun less => Binary64.le_self_of_le (Binary64.le_of_lt less)

end Sightline
