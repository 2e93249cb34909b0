import Sightline.Proofs.Scalar.Rounding

/-!
# Operations on binary64

Each operation on finite numbers gives the number nearest to the exact result, or an infinity if
that number is too large.
-/

set_option autoImplicit false

namespace Sightline

namespace Binary64

open Float.Model Float.Model.UnpackedFloat

/-! ## Unpacked operations -/

@[simp] theorem signum_positive : signum .positive = 1 := by simp [signum, Sign.apply]

@[simp] theorem signum_negative : signum .negative = -1 := by simp [signum, Sign.apply]

theorem signum_mul : ∀ s t : Sign, signum (s * t) = signum s * signum t
  | .negative, .negative => show signum .positive = _ by simp
  | .negative, .positive => show signum .negative = _ by simp
  | .positive, .negative => show signum .negative = _ by simp
  | .positive, .positive => show signum .positive = _ by simp

theorem signum_div : ∀ s t : Sign, signum (s / t) = signum s / signum t
  | .negative, .negative => show signum .positive = _ by simp
  | .negative, .positive => show signum .negative = _ by simp
  | .positive, .negative => show signum .negative = _ by simp
  | .positive, .positive => show signum .positive = _ by simp

theorem signum_neg (s : Sign) : signum (-s) = -signum s := by
  cases s <;> rfl

@[simp] theorem exactly_zero (s : Sign) : exactly (.zero s) = 0 := rfl

theorem nearest_zero (s : Sign) : Nearest 0 (.zero s) := ⟨trivial, rounds_exactly (f := .zero s) trivial⟩

theorem nearest_self {f : UnpackedFloat} (canonical : Canonical f) : Nearest (exactly f) f :=
  ⟨canonical, rounds_exactly canonical⟩

theorem normalize_nearest (n : ℤ) (e : ℤ) (s : Sign) :
    Nearest (n * 2 ^ e) (UnpackedFloat.normalize .binary64 n e s) := by
  rcases lt_trichotomy n 0 with negative | rfl | positive
  · have size : ((-n).toNat : ℚ) = -n := by exact_mod_cast Int.toNat_of_nonneg (by omega)
    have rounded := round_nearest .negative (m := (-n).toNat) (by omega) e
    rw [size] at rounded
    rw [UnpackedFloat.normalize, Int.compare_eq_lt.2 negative]
    simpa [signum, Sign.apply] using rounded
  · simpa [UnpackedFloat.normalize] using nearest_zero s
  · have size : (n.toNat : ℚ) = n := by exact_mod_cast Int.toNat_of_nonneg (by omega)
    have rounded := round_nearest .positive (m := n.toNat) (by omega) e
    rw [size] at rounded
    rw [UnpackedFloat.normalize, Int.compare_eq_gt.2 positive]
    simpa [signum, Sign.apply] using rounded

theorem decreaseExponent_value (s : Sign) (m : ℕ) {e t : ℤ} (lower : t ≤ e) :
    ((s.apply (decreaseExponent m e t).1 : ℤ) : ℚ) * 2 ^ t = signum s * m * 2 ^ e := by
  rw [← signum_mul_natCast, two_zpow_multiple lower]
  simp only [decreaseExponent, Nat.shiftLeft_eq]
  push_cast
  ring

theorem canonical_cases {f : UnpackedFloat} (canonical : Canonical f) :
    (∃ s, f = .zero s) ∨ ∃ s m e positive, f = .finite s m e positive := by
  cases f with
  | infinity s => cases canonical
  | notANumber => cases canonical
  | zero s => exact .inl ⟨s, rfl⟩
  | finite s m e positive => exact .inr ⟨s, m, e, positive, rfl⟩

theorem add_nearest {f g : UnpackedFloat} (first : Canonical f) (second : Canonical g) :
    Nearest (exactly f + exactly g) (UnpackedFloat.add .binary64 f g) := by
  obtain ⟨s, rfl⟩ | ⟨s, m, e, positive, rfl⟩ := canonical_cases first
  · rw [exactly_zero, zero_add]
    obtain ⟨t, rfl⟩ | ⟨t, m, e, positive, rfl⟩ := canonical_cases second
    · rw [UnpackedFloat.add]
      split <;> exact nearest_zero _
    · exact nearest_self second
  · obtain ⟨t, rfl⟩ | ⟨t, m', e', positive', rfl⟩ := canonical_cases second
    · rw [exactly_zero, add_zero]
      exact nearest_self first
    · have exact : exactly (.finite s m e positive) + exactly (.finite t m' e' positive') =
          (s.apply (decreaseExponent m e (min e e')).1 +
            t.apply (decreaseExponent m' e' (min e e')).1 : ℤ) * 2 ^ min e e' := by
        push_cast
        rw [add_mul, decreaseExponent_value s m (min_le_left e e'),
          decreaseExponent_value t m' (min_le_right e e')]
        rfl
      rw [exact]
      exact normalize_nearest _ _ _

theorem canonical_neg {f : UnpackedFloat} (canonical : Canonical f) : Canonical f.neg := by
  cases f <;> exact canonical

theorem exactly_neg (f : UnpackedFloat) : exactly f.neg = -exactly f := by
  cases f with
  | finite s m e positive =>
      change signum (-s) * m * 2 ^ e = -(signum s * m * 2 ^ e)
      rw [signum_neg]
      ring
  | zero s | infinity s | notANumber => exact neg_zero.symm

theorem unpacked_sub_eq_add {f g : UnpackedFloat} (first : Canonical f) (second : Canonical g) :
    UnpackedFloat.sub .binary64 f g = UnpackedFloat.add .binary64 f g.neg := by
  have opposite : ∀ (t : Sign) (n : ℤ), (-t).apply n = -t.apply n := by
    intro t n
    cases t
    · exact (neg_neg n).symm
    · rfl
  obtain ⟨s, rfl⟩ | ⟨s, m, e, positive, rfl⟩ := canonical_cases first <;>
    obtain ⟨t, rfl⟩ | ⟨t, m', e', positive', rfl⟩ := canonical_cases second
  · simp only [UnpackedFloat.sub, UnpackedFloat.neg, UnpackedFloat.add]
  · rfl
  · rfl
  · simp only [UnpackedFloat.sub, UnpackedFloat.neg, UnpackedFloat.add, opposite,
      ← sub_eq_add_neg]

theorem sub_nearest {f g : UnpackedFloat} (first : Canonical f) (second : Canonical g) :
    Nearest (exactly f - exactly g) (UnpackedFloat.sub .binary64 f g) := by
  have sum := add_nearest first (canonical_neg second)
  rw [exactly_neg] at sum
  rwa [unpacked_sub_eq_add first second, sub_eq_add_neg]

theorem mul_nearest {f g : UnpackedFloat} (first : Canonical f) (second : Canonical g) :
    Nearest (exactly f * exactly g) (UnpackedFloat.mul .binary64 f g) := by
  obtain ⟨s, rfl⟩ | ⟨s, m, e, positive, rfl⟩ := canonical_cases first
  · rw [exactly_zero, zero_mul]
    obtain ⟨t, rfl⟩ | ⟨t, m, e, positive, rfl⟩ := canonical_cases second <;> exact nearest_zero _
  · obtain ⟨t, rfl⟩ | ⟨t, m', e', positive', rfl⟩ := canonical_cases second
    · rw [exactly_zero, mul_zero]
      exact nearest_zero _
    · obtain ⟨_, _, full⟩ := first
      obtain ⟨_, _, full'⟩ := second
      have fine : e + e' ≤ -1074 ∨ 2 ^ 52 ≤ m * m' := by
        rcases full with full | bottom
        · exact .inr (full.trans (Nat.le_mul_of_pos_right m positive'))
        · rcases full' with full' | bottom'
          · exact .inr (full'.trans (Nat.le_mul_of_pos_left m' positive))
          · exact .inl (by omega)
      have exact : exactly (.finite s m e positive) * exactly (.finite t m' e' positive') =
          signum (s * t) * ((m * m' : ℕ) * 2 ^ (e + e')) := by
        rw [exactly, exactly, signum_mul, zpow_add₀ two_ne_zero]
        push_cast
        ring
      rw [exact]
      exact roundWithAccuracy_nearest (s * t) rfl fine

/-! ## Division -/

/-- The quotient of whole numbers, with what is left over as round and sticky bits. -/
theorem standsFor_div (n : ℕ) {d : ℕ} (positive : 0 < d) :
    StandsFor (.ofMantissaAndAccuracy (n / d) (accuracyOfFraction (n % d) d)) ((n : ℚ) / d) := by
  have whole : (n : ℚ) = d * (n / d : ℕ) + (n % d : ℕ) := by
    exact_mod_cast (Nat.div_add_mod n d).symm
  have below : ((n % d : ℕ) : ℚ) < d := by exact_mod_cast Nat.mod_lt n positive
  have denominator : (0 : ℚ) < d := by exact_mod_cast positive
  have split : (n : ℚ) / d = (n / d : ℕ) + (n % d : ℕ) / d := by
    rw [whole]
    field_simp
  have fraction : ((n % d : ℕ) : ℚ) / d < 1 := (div_lt_one denominator).2 below
  rw [split]
  generalize n % d = rest at fraction
  unfold accuracyOfFraction
  by_cases nothing : rest = 0
  · rw [if_pos nothing, nothing]
    simp [StandsFor, ExtendedMantissa.ofMantissaAndAccuracy]
  · have some : (0 : ℚ) < rest / d := by
      apply div_pos _ denominator
      exact_mod_cast Nat.pos_of_ne_zero nothing
    rw [if_neg nothing]
    rcases lt_trichotomy (2 * rest) d with less | tie | more
    · have half : (rest : ℚ) / d < 1 / 2 := by
        rw [div_lt_div_iff₀ denominator two_pos]
        have : (2 * rest : ℚ) < d := by exact_mod_cast less
        linarith
      rw [Nat.compare_eq_lt.2 less]
      dsimp only [StandsFor, ExtendedMantissa.ofMantissaAndAccuracy]
      exact ⟨by linarith, by linarith⟩
    · have half : (rest : ℚ) / d = 1 / 2 := by
        rw [div_eq_div_iff denominator.ne' two_ne_zero]
        have : (2 * rest : ℚ) = d := by exact_mod_cast tie
        linarith
      rw [Nat.compare_eq_eq.2 tie, half]
      rfl
    · have half : 1 / 2 < (rest : ℚ) / d := by
        rw [div_lt_div_iff₀ two_pos denominator]
        have : (d : ℚ) < 2 * rest := by exact_mod_cast more
        linarith
      rw [Nat.compare_eq_gt.2 more]
      dsimp only [StandsFor, ExtendedMantissa.ofMantissaAndAccuracy]
      exact ⟨by linarith, by linarith⟩

theorem div_nearest {f g : UnpackedFloat} (first : Canonical f) (second : Canonical g)
    (nonzero : exactly g ≠ 0) :
    Nearest (exactly f / exactly g) (UnpackedFloat.div .binary64 f g) := by
  obtain ⟨t, rfl⟩ | ⟨t, m', e', positive', rfl⟩ := canonical_cases second
  · exact absurd (exactly_zero t) nonzero
  · obtain ⟨s, rfl⟩ | ⟨s, m, e, positive, rfl⟩ := canonical_cases first
    · rw [exactly_zero, zero_div]
      exact nearest_zero _
    · obtain ⟨target, targetEq⟩ : ∃ target : ℤ, min (e - e') (Format.binary64.targetExponent
          (totalExponent m e - totalExponent m' e')) = target := ⟨_, rfl⟩
      obtain ⟨k, scale⟩ : ∃ k : ℕ, e - e' = target + k := Int.exists_add_of_le (by omega)
      have steps : (e - e' - target).toNat = k := by omega
      have core : divCore .binary64 m e m' e' =
          (m * 2 ^ k / m', target, accuracyOfFraction (m * 2 ^ k % m') m') := by
        simp only [divCore, targetEq, steps, Nat.shiftLeft_eq]
      have fine : target ≤ -1074 ∨ 2 ^ 52 ≤ m * 2 ^ k / m' := by
        by_cases bottom : target ≤ -1074
        · exact .inl bottom
        · right
          have enough : 53 + m'.log2 ≤ m.log2 + k := by
            simp only [Format.targetExponent, totalExponent, Format.mantissaBits,
              Format.minExponent] at targetEq
            norm_num at targetEq
            omega
          apply (Nat.le_div_iff_mul_le positive').2
          calc 2 ^ 52 * m' ≤ 2 ^ 52 * 2 ^ (m'.log2 + 1) :=
                Nat.mul_le_mul_left _ Nat.lt_log2_self.le
            _ = 2 ^ (53 + m'.log2) := by rw [← Nat.pow_add]; congr 1; omega
            _ ≤ 2 ^ (m.log2 + k) := Nat.pow_le_pow_right two_pos enough
            _ = 2 ^ m.log2 * 2 ^ k := Nat.pow_add ..
            _ ≤ m * 2 ^ k := Nat.mul_le_mul_right _ (Nat.log2_self_le positive.ne')
      have exact : exactly (.finite s m e positive) / exactly (.finite t m' e' positive') =
          signum (s / t) * (((m * 2 ^ k : ℕ) : ℚ) / m' * 2 ^ target) := by
        have exponent : (2 : ℚ) ^ e = 2 ^ k * 2 ^ target * 2 ^ e' := by
          rw [← two_zpow_add_nat, ← zpow_add₀ two_ne_zero]
          congr 1
          omega
        have step := two_zpow_pos e'
        rw [exactly, exactly, signum_div, exponent]
        push_cast
        field_simp
      rw [exact, UnpackedFloat.div, core]
      exact roundWithAccuracy_nearest (s / t) (standsFor_div _ positive') fine

end Binary64

end Sightline
