import Sightline.Proofs.Json.Records
import Sightline.Proofs.Scalar.Decimals
import Sightline.Proofs.Scalar.Sizes

/-!
# Numbers of a document are finite

A significand fits 64 bits.  A product with a power of ten is checked, and a quotient by powers of ten
only gets smaller, so what is read never overflows.
-/

set_option autoImplicit false

namespace Sightline.Json

open Binary64

variable {significand : Nat} {x : Float}

theorem absorb_le (ds : List Nat) (fits : significand ≤ significandEnd) :
    (absorb significand ds).1 ≤ significandEnd := by
  induction ds generalizing significand with
  | nil => exact fits
  | cons d ds ih =>
      unfold absorb
      split
      · rename_i more
        exact ih more
      · exact fits

theorem finite_of_significand (fits : significand ≤ significandEnd) :
    Scalar.isFinite (Scalar.ofNat significand : Float) = true :=
  (ofNat_finite (Nat.lt_of_le_of_lt fits (by decide))).1

theorem shiftDown_finite (fuel : Nat) (x : Float) (places : Nat) (finite : Scalar.isFinite x = true) :
    Scalar.isFinite (shiftDown fuel x places) = true := by
  have quotient : ∀ (x : Float) (n : Nat), Scalar.isFinite x = true → n ≤ 308 →
      Scalar.isFinite (x / powerOfTen n) = true := fun x n finite bounded =>
    div_finite finite (ten_pow_finite bounded).1 (ten_pow_finite bounded).2
  induction fuel generalizing x places with
  | zero => exact finite
  | succ fuel ih =>
      unfold shiftDown
      split
      · rename_i bounded
        exact quotient x places finite bounded
      · split
        · exact finite
        · exact ih _ _ (quotient x 308 finite (Nat.le_refl _))

theorem scaled_finite {exponent : Int} (fits : significand ≤ significandEnd)
    (read : scaled significand exponent = .ok x) : Scalar.isFinite x = true := by
  unfold scaled at read
  dsimp only at read
  split at read
  · split at read
    · split at read
      · rename_i finite
        cases read
        exact finite
      · cases read
    · split at read
      · cases read
        exact finite_of_significand fits
      · cases read
  · cases read
    exact shiftDown_finite _ _ _ (finite_of_significand fits)

theorem realValue_finite {n : Numeral} (read : realValue n = .ok x) : Scalar.isFinite x = true := by
  have fits := absorb_le (n.fraction.getD []) (absorb_le n.whole (Nat.zero_le significandEnd))
  unfold realValue at read
  dsimp only at read
  split at read
  · exact scaled_finite fits read
  · split at read
    · split at read
      · cases read
      · cases read
        exact zero_finite
    · exact scaled_finite fits read

theorem Numeral.value_finite {n : Numeral} {isNegative : Bool} {number : Number Float}
    (read : n.value isNegative = .ok number) : Scalar.isFinite number.toScalar = true := by
  have whole := finite_of_significand (absorb_le n.whole (Nat.zero_le significandEnd))
  unfold Numeral.value at read
  dsimp only at read
  split at read
  · split at read
    · cases read
      exact whole
    · split at read
      · cases read
        exact neg_finite whole
      · cases read
        exact neg_finite whole
  · obtain ⟨x, read, result⟩ := bind_eq_ok.1 read
    have finite := realValue_finite read
    cases result
    cases isNegative
    · exact finite
    · exact neg_finite finite

theorem number_finite {text rest : List Char} {read : Number Float} (done : number text = .ok (read, rest)) :
    Scalar.isFinite read.toScalar = true := by
  obtain ⟨⟨n, after⟩, _, done⟩ := bind_eq_ok.1 done
  obtain ⟨value, known, done⟩ := bind_eq_ok.1 done
  cases done
  exact Numeral.value_finite known

theorem scalarReader_finite {text rest : List Char} (read : scalarReader text = .ok (x, rest)) :
    Scalar.isFinite x = true := by
  obtain ⟨⟨number, after⟩, done, read⟩ := bind_eq_ok.1 read
  cases read
  unfold numberOr at done
  split at done
  · cases done
  · split at done
    · exact number_finite done
    · exact absurd done refuse_ne_ok

end Sightline.Json
