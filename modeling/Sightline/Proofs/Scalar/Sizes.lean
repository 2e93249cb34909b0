import Sightline.Proofs.Scalar.Values

/-!
# Signs and sizes of results

Numbers that are not below zero stay so under addition and multiplication, infinity included.  And
numbers whose sizes are at most a power of two stay so when one of them goes towards another: the
end can be missed by half a step only, and the power has an even mantissa.
-/

set_option autoImplicit false

namespace Sightline

namespace Binary64

open Float.Model Float.Model.UnpackedFloat

variable {a b p q t : Float} {x r : ℚ} {k : ℤ}

/-! ## Infinity in the order -/

theorem le_infinite (finite : Scalar.isFinite a = true)
    (infinite : b.toModel.unpack = .infinity .positive) : a ≤ b := by
  rw [le_iff, unpacked_le_iff, infinite]
  obtain ⟨s, same⟩ | ⟨s, m, e, positive, same⟩ := canonical_cases (canonical_of_finite finite)
  · rw [same]
    exact ⟨_, _, rfl, rfl, by decide⟩
  · rw [same]
    cases s
    · exact ⟨_, _, rfl, rfl, by simp [Prod.Lex.le_iff]⟩
    · exact ⟨_, _, rfl, rfl, by simp [Prod.Lex.le_iff]⟩

theorem not_infinite_le (finite : Scalar.isFinite b = true)
    (infinite : a.toModel.unpack = .infinity .positive) : ¬ a ≤ b := by
  rw [le_iff, unpacked_le_iff, infinite]
  rintro ⟨p, q, first, second, le⟩
  cases first
  obtain ⟨s, same⟩ | ⟨s, m, e, positive, same⟩ := canonical_cases (canonical_of_finite finite)
  · rw [same] at second
    cases second
    exact absurd le (by decide)
  · rw [same] at second
    cases s <;> cases second <;> simp [Prod.Lex.le_iff] at le

theorem infinite_le_infinite (first : a.toModel.unpack = .infinity .positive)
    (second : b.toModel.unpack = .infinity .positive) : a ≤ b := by
  rw [le_iff, unpacked_le_iff, first, second]
  exact ⟨_, _, rfl, rfl, le_rfl⟩

/-! ## Numbers not below zero -/

theorem zero_finite : Scalar.isFinite (Scalar.ofNat 0 : Float) = true := rfl

theorem value_zero : value (Scalar.ofNat 0) = 0 := by
  rw [value, unpack_zero, exactly_zero]

theorem nonneg_iff (finite : Scalar.isFinite a = true) :
    (Scalar.ofNat 0 : Float) ≤ a ↔ 0 ≤ value a := by
  rw [value_le_value zero_finite finite, value_zero]

theorem nonneg_cases (nonneg : (Scalar.ofNat 0 : Float) ≤ a) :
    a.toModel.unpack = .infinity .positive ∨ Scalar.isFinite a = true ∧ 0 ≤ value a := by
  by_cases finite : Scalar.isFinite a = true
  · exact .inr ⟨finite, (nonneg_iff finite).1 nonneg⟩
  · refine .inl ?_
    rw [isFinite_eq] at finite
    rw [le_iff, unpack_zero] at nonneg
    cases unpacked : a.toModel.unpack with
    | infinity s =>
        cases s with
        | positive => rfl
        | negative =>
            rw [unpacked] at nonneg
            cases nonneg
    | notANumber =>
        rw [unpacked] at nonneg
        cases nonneg
    | zero s =>
        rw [unpacked] at finite
        exact absurd rfl finite
    | finite s m e positive =>
        rw [unpacked] at finite
        exact absurd rfl finite

theorem isNaN_of_nonneg (nonneg : (Scalar.ofNat 0 : Float) ≤ a) : a.isNaN = false := by
  have unpacked : a.isNaN = a.toModel.unpack.isNaN := rfl
  rw [unpacked]
  rcases nonneg_cases nonneg with infinite | ⟨finite, _⟩
  · rw [infinite]
    rfl
  · obtain ⟨s, same⟩ | ⟨s, m, e, positive, same⟩ := canonical_cases (canonical_of_finite finite) <;>
      rw [same] <;> rfl

theorem RoundsTo.infinite_of_nonneg (rounded : RoundsTo x a) (nonneg : 0 ≤ x)
    (overflow : ¬ Scalar.isFinite a = true) : a.toModel.unpack = .infinity .positive := by
  obtain ⟨s, unpacked, beyond⟩ := rounded.infinite overflow
  have one := beyond 1 (.two_zpow (f := 0) (by norm_num)) (one_lt_pow₀ one_lt_two (by norm_num))
  cases s with
  | positive => exact unpacked
  | negative =>
      rw [signum_negative] at one
      linarith

theorem RoundsTo.nonneg (rounded : RoundsTo x a) (nonneg : 0 ≤ x) :
    (Scalar.ofNat 0 : Float) ≤ a := by
  by_cases finite : Scalar.isFinite a = true
  · exact (nonneg_iff finite).2 ((rounded.rounds_of_finite finite).le_of_le .zero nonneg)
  · exact le_infinite zero_finite (rounded.infinite_of_nonneg nonneg finite)

theorem infinite_pack {f : UnpackedFloat} (infinite : f = .infinity .positive) :
    (Scalar.ofNat 0 : Float) ≤ .ofModel (.pack f) :=
  le_infinite zero_finite (by rw [infinite]; rfl)

/-- The sum of two numbers not below zero is infinite if one of them is. -/
theorem unpacked_add_infinite {f g : UnpackedFloat}
    (first : f = .infinity .positive ∨ Canonical f) (second : g = .infinity .positive ∨ Canonical g)
    (infinite : f = .infinity .positive ∨ g = .infinity .positive) :
    UnpackedFloat.add .binary64 f g = .infinity .positive := by
  rcases infinite with rfl | rfl
  · rcases second with rfl | finite
    · rfl
    · obtain ⟨s, rfl⟩ | ⟨s, m, e, positive, rfl⟩ := canonical_cases finite <;>
        simp [UnpackedFloat.add]
  · rcases first with rfl | finite
    · rfl
    · obtain ⟨s, rfl⟩ | ⟨s, m, e, positive, rfl⟩ := canonical_cases finite <;>
        simp [UnpackedFloat.add]

theorem add_nonneg (first : (Scalar.ofNat 0 : Float) ≤ a) (second : (Scalar.ofNat 0 : Float) ≤ b) :
    (Scalar.ofNat 0 : Float) ≤ a + b := by
  have unpacked : ∀ {c : Float}, (Scalar.ofNat 0 : Float) ≤ c →
      c.toModel.unpack = .infinity .positive ∨ Canonical c.toModel.unpack := fun nonneg =>
    (nonneg_cases nonneg).imp_right fun finite => canonical_of_finite finite.1
  rcases nonneg_cases first with infinite | ⟨finite, nonneg⟩
  · exact infinite_pack (unpacked_add_infinite (unpacked first) (unpacked second) (.inl infinite))
  · rcases nonneg_cases second with infinite | ⟨finiteToo, nonnegToo⟩
    · exact infinite_pack (unpacked_add_infinite (unpacked first) (unpacked second) (.inr infinite))
    · exact (add_roundsTo finite finiteToo).nonneg (by positivity)

/-- What is not below zero does not lessen what it is added to, if that is not below zero either. -/
theorem le_add_of_nonneg (first : (Scalar.ofNat 0 : Float) ≤ a)
    (second : (Scalar.ofNat 0 : Float) ≤ b) : a ≤ a + b := by
  have packed : UnpackedFloat.add .binary64 a.toModel.unpack b.toModel.unpack = .infinity .positive →
      (a + b).toModel.unpack = .infinity .positive := by
    intro infinite
    change (Float.Model.pack (UnpackedFloat.add .binary64 a.toModel.unpack b.toModel.unpack)).unpack = _
    rw [infinite]
    rfl
  rcases nonneg_cases first with infinite | ⟨finite, nonneg⟩
  · refine infinite_le_infinite infinite (packed (unpacked_add_infinite (.inl infinite) ?_ (.inl infinite)))
    exact (nonneg_cases second).imp_right fun finite => canonical_of_finite finite.1
  · rcases nonneg_cases second with infinite | ⟨finiteToo, nonnegToo⟩
    · exact le_infinite finite (packed (unpacked_add_infinite
        (.inr (canonical_of_finite finite)) (.inl infinite) (.inr infinite)))
    · have rounded := add_roundsTo finite finiteToo
      by_cases sum : Scalar.isFinite (a + b) = true
      · rw [value_le_value finite sum]
        exact (rounded.rounds_of_finite sum).le_of_le (value_representable finite) (by linarith)
      · exact le_infinite finite (rounded.infinite_of_nonneg (by positivity) sum)

theorem mul_nonneg (first : (Scalar.ofNat 0 : Float) ≤ a) (positive : (Scalar.ofNat 0 : Float) < b)
    (finite : Scalar.isFinite b = true) : (Scalar.ofNat 0 : Float) ≤ a * b := by
  rw [value_lt_value zero_finite finite, value_zero] at positive
  rcases nonneg_cases first with infinite | ⟨finiteToo, nonneg⟩
  · refine infinite_pack ?_
    rw [infinite]
    unfold value at positive
    obtain ⟨s, same⟩ | ⟨s, m, e, some, same⟩ := canonical_cases (canonical_of_finite finite)
    · rw [same, exactly_zero] at positive
      exact absurd positive (by norm_num)
    · rw [same] at positive ⊢
      cases s with
      | positive => rfl
      | negative =>
          have size := (exactly_finite .negative m e some).1
          rw [(exactly_finite .negative m e some).2, signum_negative] at positive
          linarith
  · exact (mul_roundsTo finiteToo finite).nonneg (by positivity)

/-! ## Numbers up to a power of two -/

structure Within (k : ℤ) (a : Float) : Prop where
  finite : Scalar.isFinite a = true
  size : |value a| ≤ 2 ^ k

instance (k : ℤ) (a : Float) : Decidable (Within k a) :=
  decidable_of_iff (Scalar.isFinite a = true ∧ |value a| ≤ 2 ^ k)
    ⟨fun both => ⟨both.1, both.2⟩, fun within => ⟨within.finite, within.size⟩⟩

theorem RoundsTo.within (rounded : RoundsTo x a) (least : -1074 ≤ k) (small : k < 1024)
    (size : |x| ≤ 2 ^ k) : Within k a ∧ Rounds x (value a) := by
  obtain ⟨lower, upper⟩ := abs_le.1 size
  have power : Representable (2 ^ k) := .two_zpow least
  have limit := two_zpow_lt_limit small
  obtain ⟨finite, rounds⟩ := rounded.finite_of_mem power.neg power (neg_lt_neg limit) limit lower upper
  exact ⟨⟨finite, abs_le.2 ⟨rounds.le_of_le power.neg lower, rounds.ge_of_ge power upper⟩⟩, rounds⟩

theorem Within.mono {larger : ℤ} (within : Within k a) (le : k ≤ larger) : Within larger a :=
  ⟨within.finite, within.size.trans (two_zpow_le.2 le)⟩

theorem Within.add (first : Within k a) (second : Within k b) (least : -1075 ≤ k)
    (small : k < 1023) : Within (k + 1) (a + b) := by
  refine ((add_roundsTo first.finite second.finite).within (by omega) (by omega) ?_).1
  have sum := abs_add_le (value a) (value b)
  rw [zpow_add_one₀ two_ne_zero]
  linarith [first.size, second.size]

/-- What lies between nought and a number is rounded to something between them. -/
theorem Rounds.between {d : ℚ} (rounds : Rounds x r) (representable : Representable d)
    (between : 0 ≤ x ∧ x ≤ d ∨ d ≤ x ∧ x ≤ 0) : 0 ≤ r ∧ r ≤ d ∨ d ≤ r ∧ r ≤ 0 := by
  rcases between with ⟨above, below⟩ | ⟨above, below⟩
  · exact .inl ⟨rounds.le_of_le .zero above, rounds.ge_of_ge representable below⟩
  · exact .inr ⟨rounds.le_of_le representable above, rounds.ge_of_ge .zero below⟩

theorem Rounds.abs_le_two_zpow (rounds : Rounds x r) (normal : -1022 ≤ k)
    (small : |x| ≤ 2 ^ k + 2 ^ (k - 53)) : |r| ≤ 2 ^ k := by
  obtain ⟨lower, upper⟩ := abs_le.1 small
  have below := rounds.neg.le_two_zpow normal (neg_le.1 lower)
  exact abs_le.2 ⟨neg_le.1 below, rounds.le_two_zpow normal upper⟩

/-- A number that goes towards another by a share of the way stays within the power of two that both
are within. -/
theorem within_towards (start : Within k p) (stop : Within k q)
    (finite : Scalar.isFinite t = true) (share : 0 ≤ value t ∧ value t ≤ 1) (normal : -1022 ≤ k)
    (small : k < 1023) : Within k (p + (q - p) * t) := by
  have double : (2 : ℚ) ^ (k + 1) = 2 ^ k + 2 ^ k := by rw [zpow_add_one₀ two_ne_zero, mul_two]
  obtain ⟨startLow, startHigh⟩ := abs_le.1 start.size
  obtain ⟨stopLow, stopHigh⟩ := abs_le.1 stop.size
  have apart : |value q - value p| ≤ 2 ^ (k + 1) := abs_le.2 ⟨by linarith, by linarith⟩
  obtain ⟨way, wayRounds⟩ :=
    (sub_roundsTo stop.finite start.finite).within (by omega) (by omega) apart
  have error := wayRounds.abs_sub_le normal apart
  have between : 0 ≤ value (q - p) * value t ∧ value (q - p) * value t ≤ value (q - p) ∨
      value (q - p) ≤ value (q - p) * value t ∧ value (q - p) * value t ≤ 0 := by
    rcases le_total 0 (value (q - p)) with forward | backward
    · exact .inl ⟨by nlinarith [share.1], mul_le_of_le_one_right forward share.2⟩
    · exact .inr ⟨le_mul_of_le_one_right backward share.2,
        mul_nonpos_of_nonpos_of_nonneg backward share.1⟩
  have shorter : |value (q - p) * value t| ≤ 2 ^ (k + 1) := by
    obtain ⟨low, high⟩ := abs_le.1 way.size
    rcases between with ⟨_, _⟩ | ⟨_, _⟩ <;> exact abs_le.2 ⟨by linarith, by linarith⟩
  obtain ⟨part, partRounds⟩ :=
    (mul_roundsTo way.finite finite).within (by omega) (by omega) shorter
  have partBetween := partRounds.between (value_representable way.finite) between
  have missed : |value p + value ((q - p) * t)| ≤ 2 ^ k + 2 ^ (k - 53) := by
    obtain ⟨low, high⟩ := abs_le.1 error
    have step := two_zpow_pos (k - 53)
    rcases partBetween with ⟨_, _⟩ | ⟨_, _⟩ <;> exact abs_le.2 ⟨by linarith, by linarith⟩
  have room : (2 : ℚ) ^ (k - 53) ≤ 2 ^ k := two_zpow_le.2 (by omega)
  obtain ⟨sum, sumRounds⟩ := (add_roundsTo start.finite part.finite).within (k := k + 1)
    (by omega) (by omega) (by linarith)
  exact ⟨sum.finite, sumRounds.abs_le_two_zpow normal missed⟩

/-! ## Halves -/

theorem half_finite : Scalar.isFinite (0.5 : Float) = true := rfl

theorem value_half : value 0.5 = 1 / 2 := by
  have unpacked : (0.5 : Float).toModel.unpack = .finite .positive (2 ^ 52) (-53) (by decide) := rfl
  rw [value, unpacked, exactly, signum_positive]
  norm_num

theorem within_middle (first : Within k a) (second : Within k b) (least : -1074 ≤ k)
    (small : k < 1023) : Within k ((a + b) * 0.5) := by
  have sum := first.add second (by omega) small
  refine ((mul_roundsTo sum.finite half_finite).within least (by omega) ?_).1
  have size := sum.size
  rw [zpow_add_one₀ two_ne_zero] at size
  rw [value_half, abs_mul, abs_of_pos (by norm_num : (0 : ℚ) < 1 / 2)]
  linarith

/-! ## Centres of cells -/

/-- The middle of a cell counted in cells: the index is rounded up to twice itself, and the count down
to half of itself, at most. -/
theorem middle_le {count index : ℕ} (inside : index < count) (countable : count < 2 ^ 64) :
    Scalar.isFinite (Scalar.ofNat index + 0.5 : Float) = true ∧
      0 ≤ value (Scalar.ofNat index + 0.5) ∧
      value (Scalar.ofNat index + 0.5) ≤ 10 * value (Scalar.ofNat count) := by
  obtain ⟨countFinite, countRounds⟩ := ofNat_finite countable
  obtain ⟨indexFinite, indexRounds⟩ := ofNat_finite (inside.trans countable)
  have one := one_le_value_ofNat (by omega) countable
  have nonneg := indexRounds.le_of_le .zero (by positivity)
  have limit : value (Scalar.ofNat index) ≤ 2 ^ (64 : ℤ) :=
    indexRounds.ge_of_ge (.two_zpow (by norm_num)) (by exact_mod_cast (inside.trans countable).le)
  have far : value (Scalar.ofNat index) ≤ 4 * value (Scalar.ofNat count) := by
    have up := indexRounds.le_two_mul (by positivity)
    have down := countRounds.le_two_mul_of_pos (by linarith)
    have before : (index : ℚ) ≤ count := by exact_mod_cast inside.le
    linarith
  obtain ⟨middle, middleRounds⟩ :=
    (add_roundsTo indexFinite half_finite).within (k := 65) (by norm_num) (by norm_num) (by
      rw [value_half, abs_of_nonneg (by linarith)]
      norm_num at limit ⊢
      linarith)
  rw [value_half] at middleRounds
  have doubled := middleRounds.le_two_mul (by linarith)
  exact ⟨middle.finite, middleRounds.le_of_le .zero (by linarith), by linarith⟩

/-- The centre of a cell lies not much farther out than the ends of the axis. -/
theorem within_center {low high : Float} {count index : ℕ} (lowWithin : Within k low)
    (highWithin : Within k high) (less : low < high) (inside : index < count)
    (countable : count < 2 ^ 64) (least : -1022 ≤ k) (small : k < 1017) :
    Within (k + 7) (low + (high - low) / Scalar.ofNat count * (Scalar.ofNat index + 0.5)) := by
  have positive := sub_pos.2 ((value_lt_value lowWithin.finite highWithin.finite).1 less)
  have double : (2 : ℚ) ^ (k + 1) = 2 ^ k + 2 ^ k := by rw [zpow_add_one₀ two_ne_zero, mul_two]
  obtain ⟨extent, extentRounds⟩ :=
    (sub_roundsTo highWithin.finite lowWithin.finite).within (k := k + 1) (by omega) (by omega) (by
      have apart := abs_sub (value high) (value low)
      linarith [lowWithin.size, highWithin.size])
  have nonneg := extentRounds.le_of_le .zero positive.le
  have one := one_le_value_ofNat (by omega) countable
  obtain ⟨cellFinite, cellNonneg, _, cellRounds⟩ :=
    div_shortens extent.finite nonneg (ofNat_finite countable).1 one
  obtain ⟨middleFinite, middleNonneg, middleLe⟩ := middle_le inside countable
  have side := cellRounds.le_two_mul (div_nonneg nonneg (by linarith))
  have size : |value ((high - low) / Scalar.ofNat count) * value (Scalar.ofNat index + 0.5)| ≤
      2 ^ (k + 6) := by
    have wide := (le_abs_self _).trans extent.size
    rw [abs_of_nonneg (by positivity)]
    calc value ((high - low) / Scalar.ofNat count) * value (Scalar.ofNat index + 0.5)
        ≤ 2 * (value (high - low) / value (Scalar.ofNat count)) *
            (10 * value (Scalar.ofNat count)) :=
          mul_le_mul side middleLe middleNonneg (by positivity)
      _ = 20 * value (high - low) := by field_simp; ring
      _ ≤ 2 ^ 5 * 2 ^ (k + 1) := by linarith [two_zpow_pos (k + 1)]
      _ = 2 ^ (k + 6) := by
        rw [← two_zpow_add_nat 5 (k + 1)]
        congr 1
        omega
  have offset := ((mul_roundsTo cellFinite middleFinite).within (by omega) (by omega) size).1
  exact ((lowWithin.mono (by omega)).add offset (by omega) (by omega)).mono (by omega)

end Binary64

end Sightline
