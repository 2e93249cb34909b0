import Sightline.Proofs.Scalar.Mirror
import Sightline.Proofs.Scalar.Sizes

/-!
# Results without a minus

A square root, and a sum that starts from zero and gathers what is not below zero, never have a minus
sign, not even that of a zero.
-/

set_option autoImplicit false

namespace Sightline

namespace Binary64

open Float.Model Float.Model.UnpackedFloat

/-- What has no sign but plus. -/
def Upright (f : UnpackedFloat) : Prop := f.abs = f

theorem upright_unpack_packComponents {spec : Format} (e : BitVec spec.exponentBits)
    (m : BitVec spec.mantissaBitsWithoutImplicit) :
    Upright (UnpackedFloat.unpack spec (packComponents spec .positive e m)) := by
  simp only [Upright, UnpackedFloat.unpack, unpackMantissa_packComponents,
    unpackExponent_packComponents, unpackSign_packComponents]
  split_ifs <;> rfl

theorem Upright.packed {f : UnpackedFloat} (upright : Upright f) :
    Upright (Float.Model.pack f).unpack := by
  change Upright (UnpackedFloat.unpack .binary64 (UnpackedFloat.pack .binary64 f))
  cases f <;> cases upright
  · exact upright_unpack_packComponents ..
  · rfl
  · exact upright_unpack_packComponents ..
  · simp only [UnpackedFloat.pack]
    split_ifs <;> exact upright_unpack_packComponents ..

theorem upright_sqrt {f : UnpackedFloat} (nonzero : f ≠ .zero .negative) :
    Upright (UnpackedFloat.sqrt .binary64 f) := by
  rcases f with (_ | _) | _ | (_ | _) | ⟨_ | _, m, e, positive⟩
  · rfl
  · rfl
  · rfl
  · exact absurd rfl nonzero
  · rfl
  · rfl
  · simp only [UnpackedFloat.sqrt, roundWithAccuracy]
    split <;> rfl

theorem Upright.pos_of_lt {f g : UnpackedFloat} (upright : Upright f) (less : f.lt g = true) :
    UnpackedFloat.lt (.zero .positive) g = true := by
  rw [unpacked_lt_iff] at less ⊢
  obtain ⟨p, q, first, second, less⟩ := less
  refine ⟨_, q, rfl, second, lt_of_le_of_lt ?_ less⟩
  rcases f with (_ | _) | _ | (_ | _) | ⟨_ | _, m, e, positive⟩ <;> cases upright <;> cases first <;>
    simp [Prod.Lex.le_iff]

/-! ## Sums -/

theorem upright_normalize {n : ℤ} (nonneg : 0 ≤ n) (e : ℤ) :
    Upright (UnpackedFloat.normalize .binary64 n e .positive) := by
  rcases nonneg.eq_or_lt with rfl | positive
  · rfl
  · rw [UnpackedFloat.normalize, Int.compare_eq_gt.2 positive]
    simp only [UnpackedFloat.round, roundWithAccuracy]
    split <;> rfl

theorem Upright.add {f g : UnpackedFloat} (upright : Upright f)
    (nonneg : UnpackedFloat.le (.zero .positive) g = true) :
    Upright (UnpackedFloat.add .binary64 f g) := by
  rcases f with (_ | _) | _ | (_ | _) | ⟨_ | _, m, e, positive⟩ <;> cases upright <;>
    rcases g with (_ | _) | _ | (_ | _) | ⟨_ | _, m', e', positive'⟩ <;>
      first
        | rfl
        | simp only [UnpackedFloat.add]
          exact upright_normalize (Int.add_nonneg (Int.natCast_nonneg _) (Int.natCast_nonneg _)) _
        | cases nonneg

theorem upright_foldl_add {values : List Float} {start : Float}
    (upright : Upright start.toModel.unpack)
    (nonneg : ∀ value ∈ values, (Scalar.ofNat 0 : Float) ≤ value) :
    Upright (values.foldl (· + ·) start).toModel.unpack := by
  induction values generalizing start with
  | nil => exact upright
  | cons value rest ih =>
      have first := nonneg value List.mem_cons_self
      rw [le_iff, unpack_zero] at first
      exact ih (upright.add first).packed fun other member =>
        nonneg other (List.mem_cons_of_mem value member)

theorem Upright.mul_zero {f : UnpackedFloat} (upright : Upright f) (canonical : Canonical f) :
    UnpackedFloat.mul .binary64 f (.zero .positive) = .zero .positive := by
  obtain ⟨s, rfl⟩ | ⟨s, m, e, positive, rfl⟩ := canonical_cases canonical <;> cases upright <;> rfl

end Binary64

end Sightline
