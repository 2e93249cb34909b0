import Mathlib
import Sightline.Proofs.Scalar.Lawful
import Sightline.Scalar.Binary64

/-!
# The laws hold of binary64

Comparison is read off a rank: by kind, then by exponent, then by mantissa.  Multiplying by one
shifts the mantissa up by 52 bits and rounds back down the same number of bits, which loses
nothing, and packing a number that was unpacked gives the number back.  An operation on an infinity
or on no number at all gives one of these again.
-/

set_option autoImplicit false

namespace Sightline

namespace Binary64

open Float.Model Float.Model.UnpackedFloat

/-! ## Order -/

def rank? : UnpackedFloat → Option (ℤ ×ₗ ℤ ×ₗ ℤ)
  | .notANumber => none
  | .infinity .negative => some (toLex (-2, toLex (0, 0)))
  | .finite .negative m e _ => some (toLex (-1, toLex (-e, -(m : ℤ))))
  | .zero _ => some (toLex (0, toLex (0, 0)))
  | .finite .positive m e _ => some (toLex (1, toLex (e, (m : ℤ))))
  | .infinity .positive => some (toLex (2, toLex (0, 0)))

theorem compareSize_eq_lt (e e' : ℤ) (m m' : ℕ) :
    (compare e e').then (compare m m') = .lt ↔ e < e' ∨ e = e' ∧ m < m' := by
  rw [Ordering.then_eq_lt, compare_lt_iff_lt, compare_eq_iff_eq, compare_lt_iff_lt]

theorem compareSize_eq_gt (e e' : ℤ) (m m' : ℕ) :
    (compare e e').then (compare m m') = .gt ↔ e' < e ∨ e = e' ∧ m' < m := by
  rw [Ordering.then_eq_gt, compare_gt_iff_gt, compare_eq_iff_eq, compare_gt_iff_gt]

theorem compareSize_isLE (e e' : ℤ) (m m' : ℕ) :
    ((compare e e').then (compare m m')).isLE = true ↔ e < e' ∨ e = e' ∧ m ≤ m' := by
  rw [Ordering.isLE_iff_ne_gt, compareSize_eq_gt]
  omega

theorem compareSize_isGE (e e' : ℤ) (m m' : ℕ) :
    ((compare e e').then (compare m m')).isGE = true ↔ e' < e ∨ e = e' ∧ m' ≤ m := by
  rw [Ordering.isGE_iff_ne_lt, compareSize_eq_lt]
  omega

theorem unpacked_lt_iff (a b : UnpackedFloat) :
    a.lt b = true ↔ ∃ p q, rank? a = some p ∧ rank? b = some q ∧ p < q := by
  rcases a with (_ | _) | _ | _ | ⟨_ | _, m, e, _⟩ <;>
    rcases b with (_ | _) | _ | _ | ⟨_ | _, m', e', _⟩ <;>
      simp [UnpackedFloat.lt, UnpackedFloat.compare, rank?, Prod.Lex.lt_iff, compareSize_eq_lt,
        compareSize_eq_gt]
  all_goals decide

theorem unpacked_le_iff (a b : UnpackedFloat) :
    a.le b = true ↔ ∃ p q, rank? a = some p ∧ rank? b = some q ∧ p ≤ q := by
  rcases a with (_ | _) | _ | _ | ⟨_ | _, m, e, _⟩ <;>
    rcases b with (_ | _) | _ | _ | ⟨_ | _, m', e', _⟩ <;>
      simp [UnpackedFloat.le, UnpackedFloat.compare, rank?, Prod.Lex.le_iff, compareSize_isLE,
        compareSize_isGE]
  all_goals decide

theorem lt_iff (a b : Float) : a < b ↔ a.toModel.unpack.lt b.toModel.unpack = true := by
  change Float.lt a b = true ↔ _
  simp only [Float.lt, decide_eq_true_iff]
  rfl

theorem le_iff (a b : Float) : a ≤ b ↔ a.toModel.unpack.le b.toModel.unpack = true := by
  change Float.le a b = true ↔ _
  simp only [Float.le, decide_eq_true_iff]
  rfl

theorem lt_irrefl (a : Float) : ¬ a < a := by
  rw [lt_iff, unpacked_lt_iff]
  rintro ⟨p, q, first, again, less⟩
  rw [first] at again
  cases again
  exact less.ne rfl

theorem lt_trans {a b c : Float} (below : a < b) (above : b < c) : a < c := by
  rw [lt_iff, unpacked_lt_iff] at *
  obtain ⟨p, q, first, second, less⟩ := below
  obtain ⟨q', r, again, third, lessToo⟩ := above
  rw [second] at again
  cases again
  exact ⟨p, r, first, third, less.trans lessToo⟩

theorem lt_of_lt_of_le {a b c : Float} (below : a < b) (above : b ≤ c) : a < c := by
  rw [lt_iff, unpacked_lt_iff] at *
  rw [le_iff, unpacked_le_iff] at above
  obtain ⟨p, q, first, second, less⟩ := below
  obtain ⟨q', r, again, third, atMost⟩ := above
  rw [second] at again
  cases again
  exact ⟨p, r, first, third, less.trans_le atMost⟩

theorem le_of_lt {a b : Float} (less : a < b) : a ≤ b := by
  rw [lt_iff, unpacked_lt_iff] at less
  rw [le_iff, unpacked_le_iff]
  obtain ⟨p, q, first, second, below⟩ := less
  exact ⟨p, q, first, second, below.le⟩

theorem le_trans {a b c : Float} (below : a ≤ b) (above : b ≤ c) : a ≤ c := by
  rw [le_iff, unpacked_le_iff] at *
  obtain ⟨p, q, first, second, atMost⟩ := below
  obtain ⟨q', r, again, third, atMostToo⟩ := above
  rw [second] at again
  cases again
  exact ⟨p, r, first, third, atMost.trans atMostToo⟩

theorem le_of_not_lt {a b : Float} (first : a ≤ a) (second : b ≤ b) (notLess : ¬ a < b) : b ≤ a := by
  rw [le_iff, unpacked_le_iff] at *
  rw [lt_iff, unpacked_lt_iff] at notLess
  obtain ⟨p, _, ranked, _, _⟩ := first
  obtain ⟨q, _, rankedToo, _, _⟩ := second
  exact ⟨q, p, rankedToo, ranked, not_lt.1 fun less => notLess ⟨p, q, ranked, rankedToo, less⟩⟩

/-! ## Rounding -/

theorem toNat_withImplicitBit (m : BitVec 52) : (1#1 ++ m).toNat = 2 ^ 52 + m.toNat := by
  have small := m.isLt
  rw [BitVec.toNat_append, Nat.shiftLeft_eq, BitVec.toNat_ofNat, Nat.one_mul]
  exact (Nat.two_pow_add_eq_or_of_lt small 1).symm

theorem log2_withImplicitBit (m : BitVec 52) : (1#1 ++ m).toNat.log2 = 52 := by
  have small := m.isLt
  rw [Nat.log2_eq_iff (by rw [toNat_withImplicitBit]; omega), toNat_withImplicitBit]
  omega

theorem log2_mantissa_lt {m : BitVec 52} (nonzero : m ≠ 0) : m.toNat.log2 < 52 := by
  have positive : m.toNat ≠ 0 := fun zero => nonzero (BitVec.eq_of_toNat_eq zero)
  exact (Nat.log2_lt positive).2 m.isLt

theorem targetExponent_unpack {b : BitVec Format.binary64.numBits} {s : Sign} {m : Nat} {e : Int}
    {positive : 0 < m} (unpacked : UnpackedFloat.unpack .binary64 b = .finite s m e positive) :
    Format.binary64.targetExponent (totalExponent m e) = e := by
  have bias : (Format.binary64.exponentBias : Int) = 1023 := rfl
  have bits : Format.binary64.mantissaBits = 53 := rfl
  have least : Format.binary64.minExponent = -1074 := rfl
  simp only [UnpackedFloat.unpack] at unpacked
  split at unpacked
  · split at unpacked <;> cases unpacked
  · split at unpacked
    · rename_i zeroExponent
      split at unpacked
      · cases unpacked
      · rename_i nonzero
        have small := log2_mantissa_lt nonzero
        cases unpacked
        rw [Format.targetExponent, totalExponent, bits, least, bias, zeroExponent]
        simp only [BitVec.toNat_zero]
        omega
    · rename_i nonzeroExponent
      have above : (unpackExponent b).toNat ≠ 0 := fun zero =>
        nonzeroExponent (BitVec.eq_of_toNat_eq zero)
      cases unpacked
      rw [Format.targetExponent, totalExponent, bits, least, bias]
      have log := log2_withImplicitBit (unpackMantissa b)
      omega

/-- Shifting an exact mantissa back down loses nothing. -/
theorem repeat_shiftRightOne (n m : Nat) :
    n.repeat ExtendedMantissa.shiftRightOne ⟨m * 2 ^ n, false, false⟩ = ⟨m, false, false⟩ := by
  induction n generalizing m with
  | zero => simp [Nat.repeat]
  | succ n ih =>
      have doubled : m * 2 ^ (n + 1) = 2 * m * 2 ^ n := by ring
      rw [Nat.repeat, doubled, ih, ExtendedMantissa.shiftRightOne]
      simp

theorem totalExponent_scaled {m : Nat} (positive : 0 < m) (e : Int) (n : Nat) :
    totalExponent (m * 2 ^ n) (e - n) = totalExponent m e := by
  have log : (m * 2 ^ n).log2 = m.log2 + n := by
    induction n with
    | zero => simp
    | succ n ih =>
        have doubled : m * 2 ^ (n + 1) = 2 * (m * 2 ^ n) := by ring
        rw [doubled, Nat.log2_two_mul (by positivity), ih]
        rfl
  rw [totalExponent, totalExponent, log]
  push_cast
  ring

theorem shift_exact {m : Nat} (positive : 0 < m) {e : Int} (n : Nat)
    (canonical : Format.binary64.targetExponent (totalExponent m e) = e) :
    shiftToTargetExponent .binary64 (m * 2 ^ n) (e - n) .exact = (⟨m, false, false⟩, e) := by
  have steps : (e - (e - n)).toNat = n := by omega
  have shifted : (⟨m * 2 ^ n, false, false⟩ : ExtendedMantissa) >>> n = ⟨m, false, false⟩ :=
    repeat_shiftRightOne n m
  simp only [shiftToTargetExponent, totalExponent_scaled positive, canonical, shiftToExponent, steps,
    ExtendedMantissa.ofMantissaAndAccuracy, shifted]
  congr 1
  omega

theorem round_exact {s : Sign} {m : Nat} {e : Int} (positive : 0 < m) (n : Nat)
    (canonical : Format.binary64.targetExponent (totalExponent m e) = e) :
    roundWithAccuracy .binary64 s (m * 2 ^ n) (e - n) .exact = .finite s m e positive := by
  have again := shift_exact positive 0 canonical
  rw [Nat.pow_zero, Nat.mul_one, Int.natCast_zero, Int.sub_zero] at again
  simp only [roundWithAccuracy, shift_exact positive n canonical, ExtendedMantissa.roundedMantissa,
    ExtendedMantissa.accuracy, Accuracy.roundToNearestEven, again]
  rw [dif_neg (Nat.ne_of_gt positive)]

/-! ## Weights -/

theorem model_pack_unpack (f : Float.Model) : Float.Model.pack f.unpack = f := by
  obtain ⟨bits, valid⟩ := f
  have packed := pack_unpack_of_valid valid
  simp only [Float.Model.pack, Float.Model.unpack, packed]

theorem unpack_one : (Scalar.ofNat 1 : Float).toModel.unpack =
    .finite .positive (2 ^ 52) (-52) (by decide) := by
  rfl

theorem unpack_zero : (Scalar.ofNat 0 : Float).toModel.unpack = .zero .positive := by
  rfl

theorem unpacked_mul_one (f : Float.Model) :
    UnpackedFloat.mul .binary64 f.unpack (.finite .positive (2 ^ 52) (-52) (by decide)) =
      f.unpack := by
  have positiveSign : ∀ s : Sign, s * .positive = s := fun s => by cases s <;> rfl
  cases unpacked : f.unpack with
  | infinity s => rw [UnpackedFloat.mul, positiveSign]
  | notANumber => rw [UnpackedFloat.mul]
  | zero s => rw [UnpackedFloat.mul, positiveSign]
  | finite s m e positive =>
      rw [UnpackedFloat.mul, positiveSign]
      exact round_exact positive 52 (targetExponent_unpack unpacked)

theorem mul_one (a : Float) : a * Scalar.ofNat 1 = a := by
  change Float.ofModel (Float.Model.pack (UnpackedFloat.mul .binary64 a.toModel.unpack
    (Scalar.ofNat 1 : Float).toModel.unpack)) = a
  rw [unpack_one, unpacked_mul_one, model_pack_unpack]

theorem not_pos_mul_zero (a : Float) : ¬ (Scalar.ofNat 0 : Float) < a * Scalar.ofNat 0 := by
  rw [lt_iff]
  change ¬ UnpackedFloat.lt (Scalar.ofNat 0 : Float).toModel.unpack
    (Float.Model.pack (UnpackedFloat.mul .binary64 a.toModel.unpack
      (Scalar.ofNat 0 : Float).toModel.unpack)).unpack = true
  rw [unpack_zero]
  cases a.toModel.unpack with
  | infinity s =>
      rw [UnpackedFloat.mul]
      decide
  | notANumber => decide
  | zero s => cases s <;> decide
  | finite s m e positive =>
      rw [UnpackedFloat.mul]
      cases s <;> decide

/-! ## Finite numbers -/

theorem isFinite_eq (a : Float) : Scalar.isFinite a = a.toModel.unpack.isFinite := rfl

theorem isFinite_of_pack {f : UnpackedFloat}
    (finite : (Float.Model.pack f).unpack.isFinite = true) : f.isFinite = true := by
  cases f with
  | infinity s => cases s <;> exact absurd finite (by decide)
  | notANumber => exact absurd finite (by decide)
  | zero s => rfl
  | finite s m e positive => rfl

/-- A sum or a difference of infinities is one of these two. -/
theorem not_isFinite_ite {s : Sign} {agree : Prop} [Decidable agree] :
    ¬ (if agree then UnpackedFloat.infinity s else .notANumber).isFinite = true := by
  split <;> exact Bool.false_ne_true

theorem finite_of_add {a b : Float} (finite : Scalar.isFinite (a + b) = true) :
    Scalar.isFinite a = true ∧ Scalar.isFinite b = true := by
  have sum := isFinite_of_pack (f := UnpackedFloat.add .binary64 a.toModel.unpack b.toModel.unpack)
    finite
  rw [isFinite_eq, isFinite_eq]
  cases first : a.toModel.unpack <;> cases second : b.toModel.unpack <;>
    rw [first, second] at sum
  case infinity.infinity => exact absurd sum not_isFinite_ite
  all_goals first | exact ⟨rfl, rfl⟩ | cases sum

theorem finite_of_sub {a b : Float} (finite : Scalar.isFinite (a - b) = true) :
    Scalar.isFinite a = true ∧ Scalar.isFinite b = true := by
  have difference := isFinite_of_pack
    (f := UnpackedFloat.sub .binary64 a.toModel.unpack b.toModel.unpack) finite
  rw [isFinite_eq, isFinite_eq]
  cases first : a.toModel.unpack <;> cases second : b.toModel.unpack <;>
    rw [first, second] at difference
  case infinity.infinity => exact absurd difference not_isFinite_ite
  all_goals first | exact ⟨rfl, rfl⟩ | cases difference

theorem finite_of_mul {a b : Float} (finite : Scalar.isFinite (a * b) = true) :
    Scalar.isFinite a = true ∧ Scalar.isFinite b = true := by
  have product := isFinite_of_pack
    (f := UnpackedFloat.mul .binary64 a.toModel.unpack b.toModel.unpack) finite
  rw [isFinite_eq, isFinite_eq]
  cases first : a.toModel.unpack <;> cases second : b.toModel.unpack <;>
    rw [first, second] at product
  all_goals first | exact ⟨rfl, rfl⟩ | cases product

theorem finite_of_div {a b : Float} (finite : Scalar.isFinite (a / b) = true) :
    Scalar.isFinite a = true := by
  have quotient := isFinite_of_pack
    (f := UnpackedFloat.div .binary64 a.toModel.unpack b.toModel.unpack) finite
  rw [isFinite_eq]
  cases first : a.toModel.unpack <;> cases second : b.toModel.unpack <;>
    rw [first, second] at quotient
  all_goals first | rfl | cases quotient

theorem finite_of_sqrt {a : Float} (finite : Scalar.isFinite (Scalar.sqrt a) = true) :
    Scalar.isFinite a = true := by
  have root := isFinite_of_pack (f := UnpackedFloat.sqrt .binary64 a.toModel.unpack) finite
  rw [isFinite_eq]
  cases unpacked : a.toModel.unpack with
  | infinity s =>
      rw [unpacked] at root
      cases s <;> cases root
  | notANumber =>
      rw [unpacked] at root
      cases root
  | zero s => rfl
  | finite s m e positive => rfl

theorem finite_of_unit {a : Float} (above : (Scalar.ofNat 0 : Float) ≤ a)
    (below : a ≤ (Scalar.ofNat 1 : Float)) : Scalar.isFinite a = true := by
  rw [le_iff, unpack_zero] at above
  rw [le_iff, unpack_one] at below
  rw [isFinite_eq]
  cases unpacked : a.toModel.unpack with
  | infinity s =>
      rw [unpacked] at above below
      cases s with
      | negative => cases above
      | positive => cases below
  | notANumber =>
      rw [unpacked] at above
      cases above
  | zero s => rfl
  | finite s m e positive => rfl

end Binary64

instance : StrictScalar Float where
  finite_of_add := Binary64.finite_of_add
  finite_of_sub := Binary64.finite_of_sub
  finite_of_mul := Binary64.finite_of_mul
  finite_of_div := Binary64.finite_of_div
  finite_of_sqrt := Binary64.finite_of_sqrt
  finite_of_unit := Binary64.finite_of_unit

instance : OrderedScalar Float where
  le_trans := Binary64.le_trans
  le_of_lt := Binary64.le_of_lt
  le_of_not_lt := Binary64.le_of_not_lt

instance : LawfulScalar Float where
  lt_irrefl := Binary64.lt_irrefl
  lt_trans := Binary64.lt_trans
  lt_of_lt_of_le := Binary64.lt_of_lt_of_le
  mul_one := Binary64.mul_one
  not_pos_mul_zero := Binary64.not_pos_mul_zero
  not_pos_lowest := by decide +kernel

end Sightline
