import Sightline.Proofs.Scalar.Binary64
import Sightline.Proofs.Scalar.Nearest

/-!
# Binary64 rounds to the nearest number

A mantissa with a round bit and a sticky bit stands for the numbers that begin with it.  Shifting
keeps what it stands for, so the rounded mantissa is the nearest one to the exact result.
-/

set_option autoImplicit false

namespace Sightline

namespace Binary64

open Float.Model Float.Model.UnpackedFloat

/-! ## Mantissas with two more bits -/

/-- The numbers that an extended mantissa stands for. -/
def StandsFor (em : ExtendedMantissa) (y : ℚ) : Prop :=
  match em.roundBit, em.stickyBit with
  | false, false => y = em.mantissa
  | false, true => em.mantissa < y ∧ y < em.mantissa + 1 / 2
  | true, false => y = em.mantissa + 1 / 2
  | true, true => em.mantissa + 1 / 2 < y ∧ y < em.mantissa + 1

namespace StandsFor

variable {em : ExtendedMantissa} {y : ℚ}

theorem floor (stands : StandsFor em y) : (em.mantissa : ℚ) ≤ y ∧ y < em.mantissa + 1 := by
  obtain ⟨m, round, sticky⟩ := em
  cases round <;> cases sticky <;> simp only [StandsFor] at stands ⊢ <;> constructor <;> linarith

theorem shiftRightOne (stands : StandsFor em y) : StandsFor em.shiftRightOne (y / 2) := by
  obtain ⟨m, round, sticky⟩ := em
  have parts : (m : ℚ) = 2 * (m / 2 : ℕ) + (m % 2 : ℕ) := by
    exact_mod_cast (Nat.div_add_mod m 2).symm
  rcases Nat.mod_two_eq_zero_or_one m with bit | bit <;> rw [bit] at parts <;>
    cases round <;> cases sticky <;>
    simp [StandsFor, ExtendedMantissa.shiftRightOne, bit] at stands parts ⊢ <;>
    first | linarith | (constructor <;> linarith)

theorem shiftRight (stands : StandsFor em y) (n : ℕ) : StandsFor (em >>> n) (y / 2 ^ n) := by
  induction n with
  | zero =>
      rw [pow_zero, div_one]
      exact stands
  | succ n ih =>
      rw [pow_succ, ← div_div]
      exact ih.shiftRightOne

theorem rounded_bounds (em : ExtendedMantissa) :
    em.mantissa ≤ em.roundedMantissa ∧ em.roundedMantissa ≤ em.mantissa + 1 := by
  obtain ⟨m, round, sticky⟩ := em
  cases round <;> cases sticky <;>
    simp only [ExtendedMantissa.roundedMantissa, ExtendedMantissa.accuracy,
      Accuracy.roundToNearestEven] <;> omega

theorem rounded (stands : StandsFor em y) :
    |y - em.roundedMantissa| ≤ 1 / 2 ∧
      (|y - em.roundedMantissa| = 1 / 2 → Even em.roundedMantissa) := by
  obtain ⟨m, round, sticky⟩ := em
  cases round <;> cases sticky <;>
    simp only [StandsFor, ExtendedMantissa.roundedMantissa, ExtendedMantissa.accuracy,
      Accuracy.roundToNearestEven] at stands ⊢
  · rw [stands, sub_self, abs_zero]
    norm_num
  · have small : |y - m| < 1 / 2 := by
      rw [abs_lt]
      constructor <;> linarith
    exact ⟨small.le, fun tie => absurd tie small.ne⟩
  · refine ⟨?_, fun _ => Nat.even_iff.2 (by omega)⟩
    rcases Nat.mod_two_eq_zero_or_one m with bit | bit <;> rw [bit, stands, abs_le] <;> push_cast <;>
      constructor <;> linarith
  · have small : |y - (m + 1 : ℕ)| < 1 / 2 := by
      rw [abs_lt]
      push_cast
      constructor <;> linarith
    exact ⟨small.le, fun tie => absurd tie small.ne⟩

end StandsFor

/-! ## Numbers as they are unpacked -/

def signum (s : Sign) : ℚ := s.apply 1

/-- The number that is meant, nothing for what is not finite. -/
def exactly : UnpackedFloat → ℚ
  | .finite s m e _ => signum s * m * 2 ^ e
  | .zero _ | .infinity _ | .notANumber => 0

/-- The mantissa and the exponent of a finite number are the only ones it is unpacked with. -/
def Canonical : UnpackedFloat → Prop
  | .finite _ m e _ => m < 2 ^ 53 ∧ -1074 ≤ e ∧ (2 ^ 52 ≤ m ∨ e = -1074)
  | .zero _ => True
  | .infinity _ | .notANumber => False

/-! ## Rounding once -/

theorem targetExponent_eq (m : ℕ) (e : ℤ) :
    Format.binary64.targetExponent (totalExponent m e) = max (m.log2 + e - 52) (-1074) := by
  simp only [Format.targetExponent, totalExponent, Format.mantissaBits, Format.minExponent]
  norm_num
  omega

theorem shift_of_fits {m : ℕ} {e : ℤ} (fits : m < 2 ^ 53) (least : -1074 ≤ e) :
    shiftToTargetExponent .binary64 m e .exact = (⟨m, false, false⟩, e) := by
  have log : m.log2 ≤ 52 := by
    rcases Nat.eq_zero_or_pos m with rfl | positive
    · decide
    · have := (Nat.log2_lt positive.ne').2 fits
      omega
  have still : (max ((m.log2 : ℤ) + e - 52) (-1074) - e).toNat = 0 := by omega
  simp only [shiftToTargetExponent, shiftToExponent, targetExponent_eq, still,
    ExtendedMantissa.ofMantissaAndAccuracy]
  exact Prod.ext rfl (by simp)

theorem shift_of_carry {e : ℤ} (least : -1074 ≤ e) :
    shiftToTargetExponent .binary64 (2 ^ 53) e .exact = (⟨2 ^ 52, false, false⟩, e + 1) := by
  have once : (max (((2 ^ 53 : ℕ).log2 : ℤ) + e - 52) (-1074) - e).toNat = 1 := by
    rw [Nat.log2_two_pow]
    omega
  simp only [shiftToTargetExponent, shiftToExponent, targetExponent_eq, once,
    ExtendedMantissa.ofMantissaAndAccuracy]
  exact Prod.ext rfl (by simp)

theorem mantissa_shiftRight (em : ExtendedMantissa) (n : ℕ) :
    (em >>> n).mantissa = em.mantissa / 2 ^ n := by
  induction n with
  | zero => exact (Nat.div_one _).symm
  | succ n ih =>
      change (em >>> n).mantissa / 2 = _
      rw [ih, Nat.div_div_eq_div_mul, Nat.pow_succ]

theorem mantissa_ofMantissaAndAccuracy (m : ℕ) (accuracy : Accuracy) :
    (ExtendedMantissa.ofMantissaAndAccuracy m accuracy).mantissa = m := by
  cases accuracy with
  | exact => rfl
  | inexact order => cases order <;> rfl

/-- A mantissa that is shifted to 53 bits, or as far as the least exponent allows. -/
structure Shifted (em : ExtendedMantissa) (t : ℤ) (z : ℚ) : Prop where
  least : -1074 ≤ t
  stands : StandsFor em z
  fits : em.mantissa < 2 ^ 53
  full : 2 ^ 52 ≤ em.mantissa ∨ t = -1074

theorem exists_shifted {m : ℕ} {e : ℤ} {accuracy : Accuracy} {y : ℚ}
    (stands : StandsFor (.ofMantissaAndAccuracy m accuracy) y) (fine : e ≤ -1074 ∨ 2 ^ 52 ≤ m) :
    ∃ em t z, shiftToTargetExponent .binary64 m e accuracy = (em, t) ∧ Shifted em t z ∧
      z * 2 ^ t = y * 2 ^ e := by
  have log : 2 ^ 52 ≤ m → 52 ≤ m.log2 := by
    intro large
    exact (Nat.le_log2 (by omega)).2 large
  obtain ⟨n, reached⟩ : ∃ n : ℕ, max ((m.log2 : ℤ) + e - 52) (-1074) = e + n :=
    Int.exists_add_of_le (by omega)
  have steps : (max ((m.log2 : ℤ) + e - 52) (-1074) - e).toNat = n := by omega
  refine ⟨ExtendedMantissa.ofMantissaAndAccuracy m accuracy >>> n, e + n, y / 2 ^ n, ?_,
    ⟨by omega, stands.shiftRight n, ?_, ?_⟩, ?_⟩
  · simp only [shiftToTargetExponent, shiftToExponent, targetExponent_eq, steps]
  · rw [mantissa_shiftRight, mantissa_ofMantissaAndAccuracy]
    apply Nat.div_lt_of_lt_mul
    rw [← Nat.pow_add]
    rcases Nat.eq_zero_or_pos m with rfl | positive
    · exact Nat.two_pow_pos _
    · exact (Nat.log2_lt positive.ne').1 (by omega)
  · rw [mantissa_shiftRight, mantissa_ofMantissaAndAccuracy]
    by_cases bottom : e + n = -1074
    · exact .inr bottom
    · left
      have positive : m ≠ 0 := by
        rintro rfl
        simp at reached
        omega
      apply (Nat.le_div_iff_mul_le (Nat.two_pow_pos n)).2
      rw [← Nat.pow_add]
      exact (Nat.le_log2 positive).1 (by omega)
  · rw [add_comm e n, two_zpow_add_nat, ← mul_assoc, div_mul_cancel₀ _ (by positivity)]

theorem Shifted.nearest {em : ExtendedMantissa} {t : ℤ} {z : ℚ} (shifted : Shifted em t z) :
    RoundsBy (z * 2 ^ t) (em.roundedMantissa * 2 ^ t) em.roundedMantissa t := by
  have step := two_zpow_pos t
  obtain ⟨floor, ceiling⟩ := shifted.stands.floor
  obtain ⟨near, even⟩ := shifted.stands.rounded
  have nonneg : 0 ≤ z := (Nat.cast_nonneg _).trans floor
  have error : |z * 2 ^ t - em.roundedMantissa * 2 ^ t| = |z - em.roundedMantissa| * 2 ^ t := by
    rw [← sub_mul, abs_mul, abs_of_pos step]
  refine ⟨shifted.least, by push_cast; rfl, ?_, ?_, ?_, ?_⟩
  · have fits : (em.mantissa : ℚ) + 1 ≤ 2 ^ 53 := by exact_mod_cast shifted.fits
    rw [abs_of_nonneg (by positivity), show (53 : ℤ) + t = (53 : ℕ) + t from rfl, two_zpow_add_nat]
    exact mul_lt_mul_of_pos_right (by linarith) step
  · refine shifted.full.imp_left fun full => ?_
    have large : (2 : ℚ) ^ 52 ≤ em.mantissa := by exact_mod_cast full
    rw [abs_of_nonneg (by positivity), show (52 : ℤ) + t = (52 : ℕ) + t from rfl, two_zpow_add_nat]
    exact mul_le_mul_of_nonneg_right (by linarith) step.le
  · rw [error, two_zpow_pred]
    linarith [mul_le_mul_of_nonneg_right near step.le]
  · rw [error, two_zpow_pred]
    intro tie
    have half : |z - em.roundedMantissa| = 1 / 2 := by
      have : |z - em.roundedMantissa| * 2 ^ t = 1 / 2 * 2 ^ t := by linarith
      exact mul_right_cancel₀ step.ne' this
    exact_mod_cast even half

/-- A finite number as it is unpacked, nearest to an exact result. -/
structure Nearest (x : ℚ) (f : UnpackedFloat) : Prop where
  canonical : Canonical f
  rounds : Rounds x (exactly f)

theorem signum_mul_rounds (s : Sign) {x r : ℚ} (rounds : Rounds x r) :
    Rounds (signum s * x) (signum s * r) := by
  cases s with
  | negative => simpa [signum, Sign.apply] using rounds.neg
  | positive => simpa [signum, Sign.apply] using rounds

/-- What rounding leaves of a shifted mantissa: nothing, the mantissa, or a carry. -/
theorem roundWithAccuracy_nearest (s : Sign) {m : ℕ} {e : ℤ} {accuracy : Accuracy} {y : ℚ}
    (stands : StandsFor (.ofMantissaAndAccuracy m accuracy) y) (fine : e ≤ -1074 ∨ 2 ^ 52 ≤ m) :
    Nearest (signum s * (y * 2 ^ e)) (roundWithAccuracy .binary64 s m e accuracy) := by
  obtain ⟨em, t, z, shift, shifted, same⟩ := exists_shifted stands fine
  have rounds := signum_mul_rounds s ⟨_, _, shifted.nearest⟩
  obtain ⟨floor, ceiling⟩ := StandsFor.rounded_bounds em
  have fits := shifted.fits
  rw [← same]
  by_cases carry : em.roundedMantissa = 2 ^ 53
  · have result : roundWithAccuracy .binary64 s m e accuracy =
        .finite s (2 ^ 52) (t + 1) (by decide) := by
      simp only [roundWithAccuracy, shift, carry, shift_of_carry shifted.least]
      rfl
    have least := shifted.least
    rw [result]
    refine ⟨⟨by decide, by omega, .inl (le_refl _)⟩, ?_⟩
    have value : exactly (.finite s (2 ^ 52) (t + 1) (by decide)) =
        signum s * (em.roundedMantissa * 2 ^ t) := by
      rw [exactly, carry, zpow_add_one₀ two_ne_zero]
      push_cast
      ring
    rw [value]
    exact rounds
  · have again := shift_of_fits (e := t) (m := em.roundedMantissa) (by omega) shifted.least
    by_cases nothing : em.roundedMantissa = 0
    · have result : roundWithAccuracy .binary64 s m e accuracy = .zero s := by
        simp only [roundWithAccuracy, shift, again]
        rw [dif_pos nothing]
      rw [result]
      refine ⟨trivial, ?_⟩
      rw [nothing] at rounds
      simpa [exactly] using rounds
    · have result : roundWithAccuracy .binary64 s m e accuracy =
          .finite s em.roundedMantissa t (Nat.pos_of_ne_zero nothing) := by
        simp only [roundWithAccuracy, shift, again]
        rw [dif_neg nothing]
      rw [result]
      refine ⟨⟨by omega, shifted.least, shifted.full.imp_left floor.trans'⟩, ?_⟩
      rw [exactly, mul_assoc]
      exact rounds

theorem round_nearest (s : Sign) {m : ℕ} (positive : 0 < m) (e : ℤ) :
    Nearest (signum s * (m * 2 ^ e)) (UnpackedFloat.round .binary64 s m e) := by
  obtain ⟨k, shift⟩ : ∃ k : ℕ, (e - max ((m.log2 : ℤ) + e - 52) (-1074)).toNat = k := ⟨_, rfl⟩
  have scaled : UnpackedFloat.round .binary64 s m e =
      roundWithAccuracy .binary64 s (m * 2 ^ k) (e - k) .exact := by
    simp only [UnpackedFloat.round, targetExponent_eq, decreaseExponent, shift, Nat.shiftLeft_eq]
  have fine : e - k ≤ -1074 ∨ 2 ^ 52 ≤ m * 2 ^ k := by
    by_cases bottom : e - k ≤ -1074
    · exact .inl bottom
    · right
      have log := Nat.log2_self_le positive.ne'
      calc 2 ^ 52 ≤ 2 ^ (m.log2 + k) := Nat.pow_le_pow_right two_pos (by omega)
        _ = 2 ^ m.log2 * 2 ^ k := Nat.pow_add ..
        _ ≤ m * 2 ^ k := Nat.mul_le_mul_right _ log
  have same : ((m * 2 ^ k : ℕ) : ℚ) * 2 ^ (e - k) = m * 2 ^ e := by
    have exponent : (2 : ℚ) ^ e = 2 ^ k * 2 ^ (e - k) := by
      rw [← two_zpow_add_nat]
      congr 1
      omega
    rw [exponent]
    push_cast
    ring
  rw [scaled, ← same]
  exact roundWithAccuracy_nearest s rfl fine

/-! ## Canonical numbers -/

theorem signum_mul_natCast (s : Sign) (m : ℕ) : signum s * m = (s.apply m : ℤ) := by
  cases s <;> simp [signum, Sign.apply]

theorem abs_exactly_finite {s : Sign} {m : ℕ} {e : ℤ} {positive : 0 < m} :
    |exactly (.finite s m e positive)| = m * 2 ^ e := by
  rw [exactly, abs_mul, abs_of_pos (two_zpow_pos e)]
  cases s <;> simp [signum, Sign.apply]

/-- A canonical number is rounded to itself. -/
theorem rounds_exactly {f : UnpackedFloat} (canonical : Canonical f) :
    Rounds (exactly f) (exactly f) := by
  have exact : ∀ e : ℤ, |exactly f - exactly f| = (2 : ℚ) ^ (e - 1) → False := by
    intro e tie
    rw [sub_self, abs_zero] at tie
    exact (two_zpow_pos (e - 1)).ne tie
  cases f with
  | infinity s => cases canonical
  | notANumber => cases canonical
  | zero s =>
      refine ⟨0, -1074, le_rfl, by simp [exactly], ?_, .inr rfl, ?_, fun tie => (exact _ tie).elim⟩
      · rw [exactly, abs_zero]
        exact two_zpow_pos _
      · rw [sub_self, abs_zero]
        exact (two_zpow_pos _).le
  | finite s m e positive =>
      obtain ⟨fits, least, full⟩ := canonical
      have step := two_zpow_pos e
      refine ⟨s.apply m, e, least, ?_, ?_, full.imp_left fun full => ?_, ?_,
        fun tie => (exact _ tie).elim⟩
      · rw [exactly, signum_mul_natCast]
      · rw [abs_exactly_finite, show (53 : ℤ) + e = (53 : ℕ) + e from rfl, two_zpow_add_nat]
        exact mul_lt_mul_of_pos_right (by exact_mod_cast fits) step
      · rw [abs_exactly_finite, show (52 : ℤ) + e = (52 : ℕ) + e from rfl, two_zpow_add_nat]
        exact mul_le_mul_of_nonneg_right (by exact_mod_cast full) step.le
      · rw [sub_self, abs_zero]
        exact (two_zpow_pos _).le

theorem exactly_representable {f : UnpackedFloat} (canonical : Canonical f) :
    Representable (exactly f) := (rounds_exactly canonical).representable

/-! ## Packing -/

theorem unpack_normal (s : Sign) {m : ℕ} {e : ℤ} (positive : 0 < m) (full : 2 ^ 52 ≤ m)
    (fits : m < 2 ^ 53) (least : -1074 ≤ e) (greatest : e ≤ 971) :
    (Float.Model.pack (.finite s m e positive)).unpack = .finite s m e positive := by
  have log : m.log2 = 52 := (Nat.log2_eq_iff positive.ne').2 ⟨full, fits⟩
  have biased : (BitVec.ofNat 11 (e + 1023 + 52).toNat).toNat = (e + 1075).toNat := by
    rw [BitVec.toNat_ofNat]
    omega
  have notTop : BitVec.ofNat 11 (e + 1023 + 52).toNat ≠ -1#11 := by
    intro same
    have := congrArg BitVec.toNat same
    rw [biased] at this
    simp at this
    omega
  have notBottom : BitVec.ofNat 11 (e + 1023 + 52).toNat ≠ 0#11 := by
    intro same
    have := congrArg BitVec.toNat same
    rw [biased] at this
    simp at this
    omega
  have mantissa : (1#1 ++ BitVec.ofNat 52 m).toNat = m := by
    rw [toNat_withImplicitBit, BitVec.toNat_ofNat]
    omega
  have packed : UnpackedFloat.pack .binary64 (.finite s m e positive) =
      packComponents .binary64 s (BitVec.ofNat 11 (e + 1023 + 52).toNat) (BitVec.ofNat 52 m) := by
    have inside : ¬ 2 ^ 11 ≤ (e + 1023 + 52).toNat + 1 := by omega
    exact (if_neg inside).trans (if_pos (by rw [log]; rfl))
  change UnpackedFloat.unpack .binary64 (UnpackedFloat.pack .binary64 (.finite s m e positive)) = _
  rw [packed]
  simp only [UnpackedFloat.unpack, unpackExponent_packComponents, unpackMantissa_packComponents,
    unpackSign_packComponents, Sign.ofBitVec_toBitVec]
  rw [if_neg notTop, if_neg notBottom, UnpackedFloat.finite.injEq]
  refine ⟨rfl, mantissa, ?_⟩
  rw [biased]
  change ((e + 1075).toNat : ℤ) - (1023 + 52) = e
  omega

theorem unpack_subnormal (s : Sign) {m : ℕ} (positive : 0 < m) (small : m < 2 ^ 52) :
    (Float.Model.pack (.finite s m (-1074) positive)).unpack = .finite s m (-1074) positive := by
  have log : m.log2 < 52 := (Nat.log2_lt positive.ne').2 small
  have whole : (BitVec.ofNat 52 m).toNat = m := by
    rw [BitVec.toNat_ofNat]
    omega
  have nonzero : BitVec.ofNat 52 m ≠ 0#52 := by
    intro same
    have := congrArg BitVec.toNat same
    rw [whole] at this
    simp at this
    omega
  have packed : UnpackedFloat.pack .binary64 (.finite s m (-1074) positive) =
      packComponents .binary64 s 0#11 (BitVec.ofNat 52 m) := by
    have short : ¬ m.log2 + 1 = 53 := by omega
    exact if_neg short
  change UnpackedFloat.unpack .binary64
    (UnpackedFloat.pack .binary64 (.finite s m (-1074) positive)) = _
  rw [packed]
  simp only [UnpackedFloat.unpack, unpackExponent_packComponents, unpackMantissa_packComponents,
    unpackSign_packComponents, Sign.ofBitVec_toBitVec]
  rw [if_neg (by decide), if_pos trivial, dif_neg nonzero, UnpackedFloat.finite.injEq]
  exact ⟨rfl, whole, rfl⟩

theorem unpack_overflow (s : Sign) {m : ℕ} {e : ℤ} (positive : 0 < m) (large : 971 < e) :
    (Float.Model.pack (.finite s m e positive)).unpack = .infinity s := by
  have top : 2 ^ 11 ≤ (e + 1023 + 52).toNat + 1 := by omega
  change UnpackedFloat.unpack .binary64 (UnpackedFloat.pack .binary64 (.finite s m e positive)) = _
  have packed : UnpackedFloat.pack .binary64 (.finite s m e positive) = packedInfinity .binary64 s :=
    if_pos top
  rw [packed]
  cases s <;> rfl

end Binary64

end Sightline
