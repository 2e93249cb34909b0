import Sightline.Proofs.Scalar.Binary64

/-!
# Binary64 is symmetric

Taken the other way round, a sum is the same and a difference has the other sign at most.  Rounding and
packing look at the size of a number alone, and a square forgets the sign.
-/

set_option autoImplicit false

namespace Sightline

namespace Binary64

open Float.Model Float.Model.UnpackedFloat

/-! ## Sizes -/

theorem abs_round (s t : Sign) (m : ℕ) (e : ℤ) :
    (UnpackedFloat.round .binary64 s m e).abs = (UnpackedFloat.round .binary64 t m e).abs := by
  simp only [UnpackedFloat.round, roundWithAccuracy]
  split <;> rfl

theorem abs_normalize_neg (n e : ℤ) :
    (UnpackedFloat.normalize .binary64 (-n) e .positive).abs =
      (UnpackedFloat.normalize .binary64 n e .positive).abs := by
  rcases lt_trichotomy n 0 with negative | rfl | positive
  · rw [UnpackedFloat.normalize, UnpackedFloat.normalize, Int.compare_eq_lt.2 negative,
      Int.compare_eq_gt.2 (by omega)]
    exact abs_round ..
  · rfl
  · rw [UnpackedFloat.normalize, UnpackedFloat.normalize, Int.compare_eq_gt.2 positive,
      Int.compare_eq_lt.2 (by omega), neg_neg]
    exact abs_round ..

theorem abs_sub_swap (f g : UnpackedFloat) :
    (UnpackedFloat.sub .binary64 f g).abs = (UnpackedFloat.sub .binary64 g f).abs := by
  cases f with
  | notANumber => cases g <;> rfl
  | infinity s =>
      cases g with
      | infinity t => cases s <;> cases t <;> rfl
      | notANumber | zero t | finite t m e positive => rfl
  | zero s =>
      cases g with
      | zero t => cases s <;> cases t <;> rfl
      | notANumber | infinity t | finite t m e positive => rfl
  | finite s m e positive =>
      cases g with
      | finite t m' e' positive' =>
          simp only [UnpackedFloat.sub]
          rw [min_comm e' e, ← neg_sub (t.apply _), abs_normalize_neg]
      | notANumber | infinity t | zero t => rfl

theorem abs_unpack_packComponents {spec : Format} (s t : Sign) (e : BitVec spec.exponentBits)
    (m : BitVec spec.mantissaBitsWithoutImplicit) :
    (UnpackedFloat.unpack spec (packComponents spec s e m)).abs =
      (UnpackedFloat.unpack spec (packComponents spec t e m)).abs := by
  simp only [UnpackedFloat.unpack, unpackMantissa_packComponents, unpackExponent_packComponents]
  split_ifs <;> rfl

theorem abs_unpack_pack {f g : UnpackedFloat} (same : f.abs = g.abs) :
    (Float.Model.pack f).unpack.abs = (Float.Model.pack g).unpack.abs := by
  change (UnpackedFloat.unpack .binary64 (UnpackedFloat.pack .binary64 f)).abs =
    (UnpackedFloat.unpack .binary64 (UnpackedFloat.pack .binary64 g)).abs
  cases f <;> cases g <;> cases same
  · exact abs_unpack_packComponents ..
  · rfl
  · exact abs_unpack_packComponents ..
  · simp only [UnpackedFloat.pack]
    split_ifs <;> exact abs_unpack_packComponents ..

theorem mul_self_eq_abs (f : UnpackedFloat) :
    UnpackedFloat.mul .binary64 f f = UnpackedFloat.mul .binary64 f.abs f.abs := by
  cases f with
  | notANumber => rfl
  | infinity s | zero s | finite s m e positive => cases s <;> rfl

/-! ## Operations the other way round -/

theorem sub_mul_self_comm (a b : Float) : (a - b) * (a - b) = (b - a) * (b - a) := by
  have sizes := abs_unpack_pack (abs_sub_swap a.toModel.unpack b.toModel.unpack)
  have squares := mul_self_eq_abs (Float.Model.pack
    (UnpackedFloat.sub .binary64 a.toModel.unpack b.toModel.unpack)).unpack
  rw [sizes, ← mul_self_eq_abs] at squares
  exact congrArg (fun f => Float.ofModel (Float.Model.pack f)) squares

theorem unpacked_add_swap (f g : UnpackedFloat) :
    UnpackedFloat.add .binary64 f g = UnpackedFloat.add .binary64 g f := by
  cases f with
  | notANumber => cases g <;> rfl
  | infinity s =>
      cases g with
      | infinity t => cases s <;> cases t <;> rfl
      | notANumber | zero t | finite t m e positive => rfl
  | zero s =>
      cases g with
      | zero t => cases s <;> cases t <;> rfl
      | notANumber | infinity t | finite t m e positive => rfl
  | finite s m e positive =>
      cases g with
      | finite t m' e' positive' =>
          simp only [UnpackedFloat.add]
          rw [min_comm e' e, add_comm]
      | notANumber | infinity t | zero t => rfl

theorem add_swap (a b : Float) : a + b = b + a :=
  congrArg (fun f => Float.ofModel (Float.Model.pack f)) (unpacked_add_swap a.toModel.unpack b.toModel.unpack)

end Binary64

instance : SymmetricScalar Float where
  add_comm := Binary64.add_swap
  sub_mul_self_comm := Binary64.sub_mul_self_comm

end Sightline
