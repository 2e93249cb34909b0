/-!
# Classes of characters

A class is given by ranges of code points, which ascend and leave gaps between them.  A look-up goes
through the ranges in order and stops at the first one that begins after the character; it finds
every character of every range.
-/

set_option autoImplicit false

namespace Sightline.Text

def ascendFrom : Nat → List (Nat × Nat) → Bool
  | _, [] => true
  | low, (first, last) :: later =>
    decide (low ≤ first) && decide (first ≤ last) && ascendFrom (last + 1) later

structure CharClass where
  ranges : List (Nat × Nat)
  ascend : ascendFrom 0 ranges = true

/-- A code point lies in one of the ranges, which are taken to ascend. -/
def lieIn (code : Nat) : List (Nat × Nat) → Bool
  | [] => false
  | (first, last) :: later =>
    if code < first then false else decide (code ≤ last) || lieIn code later

theorem lt_of_ascendFrom {low code : Nat} {ranges : List (Nat × Nat)}
    (ascend : ascendFrom low ranges = true) (before : code < low) :
    ∀ range ∈ ranges, code < range.1 := by
  induction ranges generalizing low with
  | nil => simp
  | cons range later ih =>
    obtain ⟨first, last⟩ := range
    simp only [ascendFrom, Bool.and_eq_true, decide_eq_true_eq] at ascend
    obtain ⟨⟨reached, ordered⟩, ascend⟩ := ascend
    intro range member
    rcases List.mem_cons.1 member with rfl | member
    · exact Nat.lt_of_lt_of_le before reached
    · exact ih ascend (by omega) range member

theorem lieIn_iff {low code : Nat} {ranges : List (Nat × Nat)}
    (ascend : ascendFrom low ranges = true) :
    lieIn code ranges = true ↔ ∃ range ∈ ranges, range.1 ≤ code ∧ code ≤ range.2 := by
  induction ranges generalizing low with
  | nil => simp [lieIn]
  | cons range later ih =>
    obtain ⟨first, last⟩ := range
    have ordered := ascend
    simp only [ascendFrom, Bool.and_eq_true, decide_eq_true_eq] at ordered
    obtain ⟨⟨_, ordered⟩, ascendLater⟩ := ordered
    simp only [lieIn, List.mem_cons, exists_eq_or_imp]
    by_cases before : code < first
    · have above := lt_of_ascendFrom ascendLater (by omega : code < last + 1)
      simp only [before, if_true, Bool.false_eq_true, false_iff, not_or, not_exists, not_and]
      refine ⟨by omega, fun range member reached => ?_⟩
      have := above range member
      omega
    · simp only [before, if_false, Bool.or_eq_true, decide_eq_true_eq, ih ascendLater]
      constructor
      · rintro (inside | found)
        · exact .inl ⟨by omega, inside⟩
        · exact .inr found
      · rintro (⟨_, inside⟩ | found)
        · exact .inl inside
        · exact .inr found

namespace CharClass

def contains (k : CharClass) (c : Char) : Bool := lieIn c.toNat k.ranges

theorem contains_iff (k : CharClass) (c : Char) :
    k.contains c = true ↔ ∃ range ∈ k.ranges, range.1 ≤ c.toNat ∧ c.toNat ≤ range.2 :=
  lieIn_iff k.ascend

end CharClass

end Sightline.Text
