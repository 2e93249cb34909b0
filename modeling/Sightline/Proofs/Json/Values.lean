import Sightline.Proofs.Json.Records

/-!
# Texts of counts and scalars

A count is written as a whole number that fits 64 bits, a scalar as any number that can be read.
-/

set_option autoImplicit false

namespace Sightline.Json

variable {α : Type} [Scalar α] {text rest signed : List Char}

/-- What digits say, most significant first. -/
def decimal (ds : List Nat) : Nat := ds.foldl (fun sum d => sum * 10 + d) 0

structure CountText (count : Nat) (text rest : List Char) : Prop where
  written : ∃ ds signed, Blanks text signed ∧ NumberText false ⟨ds, none, none⟩ signed rest ∧
    decimal ds = count
  fits : count ≤ significandEnd

structure ScalarText (x : α) (text rest : List Char) : Prop where
  written : ∃ isNegative n signed number, Blanks text signed ∧ NumberText isNegative n signed rest ∧
    (n.value isNegative : Except (Problem α) (Number α)) = .ok number ∧ number.toScalar = x

theorem CountText.digit {c : Char} {d : Nat} (digit : digit? c = some d) (ended : Ended rest)
    (fits : d ≤ significandEnd) : CountText d (c :: rest) rest := by
  have noLeadingZero : [d].head? = some 0 → [d] = [0] := by
    intro same
    rw [Option.some.inj same]
  exact ⟨⟨[d], _, .none _, .positive ⟨⟨_, _, .last digit, .none _, .none _⟩, noLeadingZero, ended⟩,
    by simp [decimal]⟩, fits⟩

/-! ## What they are read to -/

theorem le_foldl_digits (ds : List Nat) (start : Nat) :
    start ≤ ds.foldl (fun sum d => sum * 10 + d) start := by
  induction ds generalizing start with
  | nil => exact Nat.le_refl _
  | cons d ds ih => exact Nat.le_trans (by omega) (ih (start * 10 + d))

theorem absorb_of_fits (ds : List Nat) (start : Nat)
    (fits : ds.foldl (fun sum d => sum * 10 + d) start ≤ significandEnd) :
    absorb start ds = (ds.foldl (fun sum d => sum * 10 + d) start, ds.length) := by
  induction ds generalizing start with
  | nil => rfl
  | cons d ds ih =>
      have first := Nat.le_trans (le_foldl_digits ds (start * 10 + d)) fits
      rw [absorb, if_pos first, ih _ fits]
      rfl

theorem value_of_decimal {ds : List Nat} (fits : decimal ds ≤ significandEnd) :
    (Numeral.value ⟨ds, none, none⟩ false : Except (Problem α) (Number α)) =
      .ok (.natural (decimal ds)) := by
  unfold Numeral.value
  rw [absorb_of_fits ds 0 fits]
  simp [decimal]

theorem NumberText.numberOr {isNegative : Bool} {n : Numeral} (expected : String)
    (blanks : Blanks text signed) (number : NumberText isNegative n signed rest) :
    (numberOr expected text : Except (Problem α) (Number α × List Char)) =
      (n.value isNegative).map fun read => (read, rest) := by
  obtain ⟨c, after, rfl, first⟩ := number.head
  unfold Json.numberOr
  rw [blanks.reach number.solid, ← number.read]
  exact if_pos (by simpa using first)

theorem CountText.read {count : Nat} (expected : String) (spelled : CountText count text rest) :
    (countReader expected text : Except (Problem α) (Nat × List Char)) = .ok (count, rest) := by
  obtain ⟨⟨ds, signed, blanks, number, rfl⟩, fits⟩ := spelled
  rw [countReader, number.numberOr expected blanks, value_of_decimal fits]
  rfl

/-- A count is written as the scalar that it stands for. -/
theorem CountText.scalar {count : Nat} (spelled : CountText count text rest) :
    ScalarText (Scalar.ofNat count : α) text rest := by
  obtain ⟨⟨ds, signed, blanks, number, rfl⟩, fits⟩ := spelled
  exact ⟨⟨false, _, signed, _, blanks, number, value_of_decimal fits, rfl⟩⟩

theorem ScalarText.read {x : α} (spelled : ScalarText x text rest) :
    (scalarReader text : Except (Problem α) (α × List Char)) = .ok (x, rest) := by
  obtain ⟨isNegative, n, signed, read, blanks, number, value, rfl⟩ := spelled
  rw [scalarReader, number.numberOr _ blanks, value]
  rfl

/-! ## Where they stand -/

theorem CountText.opens {count : Nat} (spelled : CountText count text rest) : Opens text := by
  obtain ⟨⟨_, _, blanks, number, _⟩, _⟩ := spelled
  exact number.opens.before blanks

theorem CountText.length_lt {count : Nat} (spelled : CountText count text rest) :
    rest.length < text.length := by
  obtain ⟨⟨_, _, blanks, number, _⟩, _⟩ := spelled
  exact number.length_lt.trans_le blanks.length_le

theorem ScalarText.opens {x : α} (spelled : ScalarText x text rest) : Opens text := by
  obtain ⟨_, _, _, _, blanks, number, _⟩ := spelled
  exact number.opens.before blanks

theorem ScalarText.length_lt {x : α} (spelled : ScalarText x text rest) :
    rest.length < text.length := by
  obtain ⟨_, _, _, _, blanks, number, _⟩ := spelled
  exact number.length_lt.trans_le blanks.length_le

theorem numberOr_skipBlanks (expected : String) (text : List Char) :
    (numberOr expected (skipBlanks text) : Except (Problem α) (Number α × List Char)) =
      numberOr expected text := by
  simp only [numberOr, skipBlanks_skipBlanks]

theorem countReader_skipBlanks (expected : String) (text : List Char) :
    (countReader expected (skipBlanks text) : Except (Problem α) (Nat × List Char)) =
      countReader expected text := by
  simp only [countReader, numberOr_skipBlanks]

theorem scalarReader_skipBlanks (text : List Char) :
    (scalarReader (skipBlanks text) : Except (Problem α) (α × List Char)) = scalarReader text := by
  simp only [scalarReader, numberOr_skipBlanks]

end Sightline.Json
