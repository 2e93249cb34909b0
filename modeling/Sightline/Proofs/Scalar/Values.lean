import Sightline.Proofs.Scalar.Operations

/-!
# Binary64 numbers by their values

A finite number has a rational value, and finite numbers are ordered by their values.  The result
of an operation is the number nearest to the exact result, or an infinity beyond all finite numbers.
-/

set_option autoImplicit false

namespace Sightline

namespace Binary64

open Float.Model Float.Model.UnpackedFloat

def value (a : Float) : ℚ := exactly a.toModel.unpack

/-! ## What is unpacked is canonical -/

theorem exponent_unpack_le {b : BitVec Format.binary64.numBits} {s : Sign} {m : ℕ} {e : ℤ}
    {positive : 0 < m} (unpacked : UnpackedFloat.unpack .binary64 b = .finite s m e positive) :
    e ≤ 971 := by
  have bias : (Format.binary64.exponentBias : ℤ) = 1023 := rfl
  simp only [UnpackedFloat.unpack] at unpacked
  split at unpacked
  · split at unpacked <;> cases unpacked
  · rename_i notTop
    have bound := (unpackExponent b).isLt
    have below : (unpackExponent b).toNat ≠ 2047 := fun top =>
      notTop (BitVec.eq_of_toNat_eq top)
    split at unpacked
    · rename_i bottom
      split at unpacked
      · cases unpacked
      · cases unpacked
        rw [bias, bottom]
        decide
    · cases unpacked
      rw [bias]
      change ((unpackExponent b).toNat : ℤ) - (1023 + 52) ≤ 971
      change (unpackExponent b).toNat < 2048 at bound
      omega

/-- The numbers that are packed as they are lie below 2^1024. -/
theorem size_lt_iff {s : Sign} {m : ℕ} {e : ℤ} {positive : 0 < m}
    (canonical : Canonical (.finite s m e positive)) :
    |exactly (.finite s m e positive)| < 2 ^ 1024 ↔ e ≤ 971 := by
  obtain ⟨fits, _, full⟩ := canonical
  rw [abs_exactly_finite]
  constructor
  · intro small
    by_contra above
    have fullQ : (2 : ℚ) ^ 52 ≤ m := by exact_mod_cast full.resolve_right (by omega)
    have high : (2 : ℚ) ^ (972 : ℤ) ≤ 2 ^ e := two_zpow_le.2 (by omega)
    have large : 2 ^ 1024 ≤ (m : ℚ) * 2 ^ e := by
      calc (2 : ℚ) ^ 1024 = (2 : ℚ) ^ 52 * 2 ^ (972 : ℤ) := by
            rw [← two_zpow_add_nat 52 972]
            exact (zpow_natCast 2 1024).symm
        _ ≤ (m : ℚ) * 2 ^ e := mul_le_mul fullQ high (two_zpow_pos _).le (by positivity)
    exact absurd small (not_lt.2 large)
  · intro greatest
    have fitsQ : (m : ℚ) < 2 ^ 53 := by exact_mod_cast fits
    have top : (2 : ℚ) ^ e ≤ 2 ^ (971 : ℤ) := two_zpow_le.2 greatest
    calc (m : ℚ) * 2 ^ e < 2 ^ 53 * 2 ^ e := mul_lt_mul_of_pos_right fitsQ (two_zpow_pos e)
      _ ≤ 2 ^ 53 * 2 ^ (971 : ℤ) := mul_le_mul_of_nonneg_left top (by norm_num)
      _ = 2 ^ 1024 := by
        rw [← two_zpow_add_nat 53 971]
        exact zpow_natCast 2 1024

theorem canonical_unpack {b : BitVec Format.binary64.numBits}
    (finite : (UnpackedFloat.unpack .binary64 b).isFinite = true) :
    Canonical (UnpackedFloat.unpack .binary64 b) ∧
      |exactly (UnpackedFloat.unpack .binary64 b)| < 2 ^ 1024 := by
  cases unpacked : UnpackedFloat.unpack .binary64 b with
  | infinity s =>
      rw [unpacked] at finite
      cases finite
  | notANumber =>
      rw [unpacked] at finite
      cases finite
  | zero s => exact ⟨trivial, by rw [exactly_zero, abs_zero]; positivity⟩
  | finite s m e positive =>
      have target := targetExponent_unpack unpacked
      rw [targetExponent_eq] at target
      have fits : m < 2 ^ 53 := (Nat.log2_lt positive.ne').1 (by omega)
      have full : 2 ^ 52 ≤ m ∨ e = -1074 := by
        by_cases bottom : e = -1074
        · exact .inr bottom
        · exact .inl ((Nat.le_log2 positive.ne').1 (by omega))
      have canonical : Canonical (.finite s m e positive) := ⟨fits, by omega, full⟩
      exact ⟨canonical, (size_lt_iff canonical).2 (exponent_unpack_le unpacked)⟩

theorem isFinite_of_canonical {f : UnpackedFloat} (canonical : Canonical f) : f.isFinite = true := by
  cases f with
  | infinity s => cases canonical
  | notANumber => cases canonical
  | zero s => rfl
  | finite s m e positive => rfl

/-! ## What is packed -/

theorem unpack_pack {f : UnpackedFloat} (canonical : Canonical f) (small : |exactly f| < 2 ^ 1024) :
    (Float.Model.pack f).unpack = f := by
  obtain ⟨s, rfl⟩ | ⟨s, m, e, positive, rfl⟩ := canonical_cases canonical
  · cases s <;> rfl
  · have greatest := (size_lt_iff canonical).1 small
    obtain ⟨fits, least, full⟩ := canonical
    by_cases normal : 2 ^ 52 ≤ m
    · exact unpack_normal s positive normal fits least greatest
    · have bottom : e = -1074 := by omega
      subst bottom
      exact unpack_subnormal s positive (by omega)

theorem unpack_pack_large {f : UnpackedFloat} (canonical : Canonical f)
    (large : 2 ^ 1024 ≤ |exactly f|) :
    ∃ s, (Float.Model.pack f).unpack = .infinity s ∧ signum s * exactly f = |exactly f| := by
  obtain ⟨s, rfl⟩ | ⟨s, m, e, positive, rfl⟩ := canonical_cases canonical
  · rw [exactly_zero, abs_zero] at large
    exact absurd large (not_le.2 (by positivity))
  · refine ⟨s, unpack_overflow s positive ?_, ?_⟩
    · by_contra below
      exact absurd ((size_lt_iff canonical).2 (by omega)) (not_lt.2 large)
    · rw [abs_exactly_finite, exactly]
      cases s <;> simp

/-- The number that an exact result is rounded to. -/
def RoundsTo (x : ℚ) (a : Float) : Prop := ∃ f, Nearest x f ∧ a = .ofModel (.pack f)

variable {a b : Float} {x z : ℚ}

theorem canonical_of_finite (finite : Scalar.isFinite a = true) : Canonical a.toModel.unpack :=
  (canonical_unpack finite).1

theorem abs_value_lt (finite : Scalar.isFinite a = true) : |value a| < 2 ^ 1024 :=
  (canonical_unpack finite).2

theorem add_roundsTo (first : Scalar.isFinite a = true) (second : Scalar.isFinite b = true) :
    RoundsTo (value a + value b) (a + b) :=
  ⟨_, add_nearest (canonical_of_finite first) (canonical_of_finite second), rfl⟩

theorem sub_roundsTo (first : Scalar.isFinite a = true) (second : Scalar.isFinite b = true) :
    RoundsTo (value a - value b) (a - b) :=
  ⟨_, sub_nearest (canonical_of_finite first) (canonical_of_finite second), rfl⟩

theorem mul_roundsTo (first : Scalar.isFinite a = true) (second : Scalar.isFinite b = true) :
    RoundsTo (value a * value b) (a * b) :=
  ⟨_, mul_nearest (canonical_of_finite first) (canonical_of_finite second), rfl⟩

theorem div_roundsTo (first : Scalar.isFinite a = true) (second : Scalar.isFinite b = true)
    (nonzero : value b ≠ 0) : RoundsTo (value a / value b) (a / b) :=
  ⟨_, div_nearest (canonical_of_finite first) (canonical_of_finite second) nonzero, rfl⟩

theorem ofNat_roundsTo {n : ℕ} (small : n < 2 ^ 64) : RoundsTo n (Scalar.ofNat n : Float) := by
  refine ⟨_, ?_, rfl⟩
  have whole : (UInt64.ofNat n).toNat = n := by simp; omega
  have nearest := normalize_nearest n 0 .positive
  simpa [UnpackedFloat.ofUInt64, UnpackedFloat.ofNat, UnpackedFloat.ofInt, whole] using nearest

/-! ## Results -/

namespace RoundsTo

/-- A result between two numbers that do not overflow does not overflow. -/
theorem finite_of_mem {low high : ℚ} (rounded : RoundsTo x a) (lowFits : Representable low)
    (highFits : Representable high) (above : -2 ^ 1024 < low) (below : high < 2 ^ 1024)
    (lower : low ≤ x) (upper : x ≤ high) : Scalar.isFinite a = true ∧ Rounds x (value a) := by
  obtain ⟨f, nearest, rfl⟩ := rounded
  have size : |exactly f| < 2 ^ 1024 := by
    have lower := nearest.rounds.le_of_le lowFits lower
    have upper := nearest.rounds.ge_of_ge highFits upper
    exact abs_lt.2 ⟨above.trans_le lower, upper.trans_lt below⟩
  have same := unpack_pack nearest.canonical size
  constructor
  · rw [isFinite_eq]
    change (Float.Model.pack f).unpack.isFinite = true
    rw [same]
    exact isFinite_of_canonical nearest.canonical
  · change Rounds x (exactly (Float.Model.pack f).unpack)
    rw [same]
    exact nearest.rounds

theorem rounds_of_finite (rounded : RoundsTo x a) (finite : Scalar.isFinite a = true) :
    Rounds x (value a) := by
  obtain ⟨f, nearest, rfl⟩ := rounded
  by_cases small : |exactly f| < 2 ^ 1024
  · have same := unpack_pack nearest.canonical small
    change Rounds x (exactly (Float.Model.pack f).unpack)
    rw [same]
    exact nearest.rounds
  · obtain ⟨s, infinite, _⟩ := unpack_pack_large nearest.canonical (not_lt.1 small)
    rw [isFinite_eq] at finite
    change (Float.Model.pack f).unpack.isFinite = true at finite
    rw [infinite] at finite
    cases finite

/-- A result that overflows lies beyond all numbers that do not. -/
theorem infinite (rounded : RoundsTo x a) (overflow : ¬ Scalar.isFinite a = true) :
    ∃ s, a.toModel.unpack = .infinity s ∧
      ∀ z, Representable z → z < 2 ^ 1024 → z ≤ signum s * x := by
  obtain ⟨f, nearest, rfl⟩ := rounded
  have large : 2 ^ 1024 ≤ |exactly f| := by
    by_contra small
    apply overflow
    rw [isFinite_eq]
    change (Float.Model.pack f).unpack.isFinite = true
    rw [unpack_pack nearest.canonical (not_le.1 small)]
    exact isFinite_of_canonical nearest.canonical
  obtain ⟨s, unpacked, size⟩ := unpack_pack_large nearest.canonical large
  refine ⟨s, unpacked, fun z representable small => ?_⟩
  by_contra below
  have rounds := signum_mul_rounds s nearest.rounds
  have upper := rounds.ge_of_ge representable (not_le.1 below).le
  rw [size] at upper
  exact absurd (large.trans upper) (not_le.2 small)

end RoundsTo

/-! ## Order -/

/-- Of two canonical sizes the one with the greater exponent is greater. -/
theorem size_lt_of_exponent {m m' : ℕ} {e e' : ℤ} (fits : m < 2 ^ 53) (least : -1074 ≤ e)
    (full' : 2 ^ 52 ≤ m' ∨ e' = -1074) (less : e < e') : (m : ℚ) * 2 ^ e < m' * 2 ^ e' := by
  have fitsQ : (m : ℚ) < 2 ^ 53 := by exact_mod_cast fits
  have fullQ : (2 : ℚ) ^ 52 ≤ m' := by exact_mod_cast full'.resolve_right (by omega)
  have next : (2 : ℚ) ^ (e + 1) ≤ 2 ^ e' := two_zpow_le.2 (by omega)
  calc (m : ℚ) * 2 ^ e < 2 ^ 53 * 2 ^ e := mul_lt_mul_of_pos_right fitsQ (two_zpow_pos e)
    _ = 2 ^ 52 * 2 ^ (e + 1) := by rw [zpow_add_one₀ two_ne_zero]; ring
    _ ≤ m' * 2 ^ e' := mul_le_mul fullQ next (two_zpow_pos _).le (by positivity)

theorem size_lt {m m' : ℕ} {e e' : ℤ} {s s' : Sign} {positive : 0 < m} {positive' : 0 < m'}
    (canonical : Canonical (.finite s m e positive))
    (canonical' : Canonical (.finite s' m' e' positive')) :
    (m : ℚ) * 2 ^ e < m' * 2 ^ e' ↔ e < e' ∨ e = e' ∧ m < m' := by
  obtain ⟨fits, least, full⟩ := canonical
  obtain ⟨fits', least', full'⟩ := canonical'
  rcases lt_trichotomy e e' with less | rfl | more
  · simp [less, size_lt_of_exponent fits least full' less]
  · simp [mul_lt_mul_iff_left₀ (two_zpow_pos e)]
  · have := size_lt_of_exponent fits' least' full more
    constructor
    · intro less
      exact absurd less (not_lt.2 this.le)
    · omega

theorem exactly_finite (s : Sign) (m : ℕ) (e : ℤ) (positive : 0 < m) :
    0 < (m : ℚ) * 2 ^ e ∧ exactly (.finite s m e positive) = signum s * (m * 2 ^ e) := by
  have := two_zpow_pos e
  exact ⟨by positivity, mul_assoc _ _ _⟩

theorem lt_iff_exactly {f g : UnpackedFloat} (first : Canonical f) (second : Canonical g) :
    f.lt g = true ↔ exactly f < exactly g := by
  rw [unpacked_lt_iff]
  obtain ⟨s, rfl⟩ | ⟨s, m, e, positive, rfl⟩ := canonical_cases first <;>
    obtain ⟨t, rfl⟩ | ⟨t, m', e', positive', rfl⟩ := canonical_cases second
  · simp [rank?]
  · obtain ⟨size, same⟩ := exactly_finite t m' e' positive'
    rw [same]
    cases t <;> simp [rank?, Prod.Lex.lt_iff] <;> linarith
  · obtain ⟨size, same⟩ := exactly_finite s m e positive
    rw [same]
    cases s <;> simp [rank?, Prod.Lex.lt_iff] <;> linarith
  · obtain ⟨size, same⟩ := exactly_finite s m e positive
    obtain ⟨size', same'⟩ := exactly_finite t m' e' positive'
    rw [same, same']
    cases s <;> cases t <;> simp [rank?, Prod.Lex.lt_iff]
    · rw [size_lt second first]
      omega
    · linarith
    · linarith
    · rw [size_lt first second]

theorem exists_rank {f : UnpackedFloat} (canonical : Canonical f) : ∃ p, rank? f = some p := by
  obtain ⟨s, rfl⟩ | ⟨s, m, e, positive, rfl⟩ := canonical_cases canonical
  · exact ⟨_, rfl⟩
  · cases s <;> exact ⟨_, rfl⟩

theorem le_iff_exactly {f g : UnpackedFloat} (first : Canonical f) (second : Canonical g) :
    f.le g = true ↔ exactly f ≤ exactly g := by
  obtain ⟨p, ranked⟩ := exists_rank first
  obtain ⟨q, ranked'⟩ := exists_rank second
  rw [← not_lt, ← lt_iff_exactly second first, unpacked_le_iff, unpacked_lt_iff]
  simp [ranked, ranked']

theorem value_lt_value (first : Scalar.isFinite a = true) (second : Scalar.isFinite b = true) :
    a < b ↔ value a < value b := by
  rw [lt_iff]
  exact lt_iff_exactly (canonical_of_finite first) (canonical_of_finite second)

theorem value_le_value (first : Scalar.isFinite a = true) (second : Scalar.isFinite b = true) :
    a ≤ b ↔ value a ≤ value b := by
  rw [le_iff]
  exact le_iff_exactly (canonical_of_finite first) (canonical_of_finite second)

theorem le_refl_of_finite (finite : Scalar.isFinite a = true) : a ≤ a :=
  (value_le_value finite finite).2 le_rfl

/-! ## Counts and quotients -/

theorem value_representable (finite : Scalar.isFinite a = true) : Representable (value a) :=
  exactly_representable (canonical_of_finite finite)

theorem neg_lt_value (finite : Scalar.isFinite a = true) : -2 ^ 1024 < value a :=
  (abs_lt.1 (abs_value_lt finite)).1

theorem value_lt (finite : Scalar.isFinite a = true) : value a < 2 ^ 1024 :=
  (abs_lt.1 (abs_value_lt finite)).2

theorem two_zpow_lt_limit {k : ℤ} (small : k < 1024) : (2 : ℚ) ^ k < 2 ^ 1024 := by
  rw [← zpow_natCast]
  exact two_zpow_lt.2 small

theorem neg_limit_lt_zero : -2 ^ 1024 < (0 : ℚ) := neg_lt_zero.2 (pow_pos two_pos 1024)

theorem ofNat_finite {n : ℕ} (small : n < 2 ^ 64) :
    Scalar.isFinite (Scalar.ofNat n : Float) = true ∧ Rounds n (value (Scalar.ofNat n)) := by
  apply (ofNat_roundsTo small).finite_of_mem .zero (.two_zpow (f := 64) (by norm_num))
    neg_limit_lt_zero (two_zpow_lt_limit (by norm_num))
  · positivity
  · exact_mod_cast small.le

theorem value_ofNat {n : ℕ} (small : n < 2 ^ 53) : value (Scalar.ofNat n) = n := by
  have representable : Representable n :=
    ⟨n, 0, by rw [abs_of_nonneg (by positivity)]; exact_mod_cast small.le, by norm_num, by simp⟩
  exact (ofNat_finite (small.trans (by norm_num))).2.eq_self representable

theorem one_le_value_ofNat {n : ℕ} (some : 1 ≤ n) (small : n < 2 ^ 64) :
    1 ≤ value (Scalar.ofNat n) := by
  have one : Representable 1 := .two_zpow (f := 0) (by norm_num)
  exact (ofNat_finite small).2.le_of_le one (by exact_mod_cast some)

/-- Dividing by one or more shortens. -/
theorem div_shortens (first : Scalar.isFinite a = true) (nonneg : 0 ≤ value a)
    (second : Scalar.isFinite b = true) (some : 1 ≤ value b) :
    Scalar.isFinite (a / b) = true ∧ 0 ≤ value (a / b) ∧ value (a / b) ≤ value a ∧
      Rounds (value a / value b) (value (a / b)) := by
  have lower : 0 ≤ value a / value b := div_nonneg nonneg (zero_le_one.trans some)
  have upper : value a / value b ≤ value a := div_le_self nonneg some
  have rounded := div_roundsTo first second (zero_lt_one.trans_le some).ne'
  obtain ⟨finite, rounds⟩ := rounded.finite_of_mem .zero (value_representable first)
    neg_limit_lt_zero (value_lt first) lower upper
  exact ⟨finite, rounds.le_of_le .zero lower, rounds.ge_of_ge (value_representable first) upper,
    rounds⟩

end Binary64

end Sightline
