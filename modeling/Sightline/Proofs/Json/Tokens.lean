import Sightline.Json.Record
import Sightline.Proofs.Json.Grammar

/-!
# Reading tokens

Blanks, numbers and strings are read as the grammar says, and every one of them takes characters.
-/

set_option autoImplicit false

namespace Sightline.Json

variable {α : Type} {text rest : List Char}

/-! ## Blanks and marks -/

theorem Blanks.skipBlanks (blanks : Blanks text rest) : skipBlanks text = skipBlanks rest := by
  induction blanks with
  | none text => rfl
  | more blank later ih => rw [← ih, Json.skipBlanks, List.dropWhile_cons_of_pos blank, Json.skipBlanks]

theorem skipBlanks_of_solid {c : Char} (solid : isBlank c = false) :
    skipBlanks (c :: rest) = c :: rest :=
  List.dropWhile_cons_of_neg (by simp [solid])

theorem Blanks.reach {c : Char} (blanks : Blanks text (c :: rest)) (solid : isBlank c = false) :
    Json.skipBlanks text = c :: rest := by
  rw [blanks.skipBlanks, skipBlanks_of_solid solid]

theorem Blanks.length_le (blanks : Blanks text rest) : rest.length ≤ text.length := by
  induction blanks with
  | none text => exact Nat.le_refl _
  | more blank later ih => exact Nat.le_succ_of_le ih

theorem Blanks.trans {middle : List Char} (first : Blanks text middle) (second : Blanks middle rest) :
    Blanks text rest := by
  induction first with
  | none text => exact second
  | more blank later ih => exact .more blank (ih second)

theorem colon_of_blanks (blanks : Blanks text (':' :: rest)) :
    (colon text : Except (Problem α) (List Char)) = .ok rest := by
  rw [colon, blanks.reach rfl]
  rfl

/-! ## Numbers -/

def NoDigit (rest : List Char) : Prop := ∀ c ∈ rest.head?, digit? c = none

theorem digit?_of_blank {c : Char} (blank : isBlank c = true) : digit? c = none := by
  simp only [isBlank, Bool.or_eq_true, decide_eq_true_eq] at blank
  rcases blank with ((rfl | rfl) | rfl) | rfl <;> rfl

theorem Ended.noDigit (ended : Ended rest) : NoDigit rest := by
  intro c head
  rcases ended c head with blank | rfl | rfl | rfl
  · exact digit?_of_blank blank
  all_goals rfl

theorem PowerText.noDigit {power : Option (Bool × List Nat)} (spelled : PowerText power text rest)
    (ended : Ended rest) : NoDigit text := by
  have marks : ∀ {mark : Char} {text : List Char}, mark = 'e' ∨ mark = 'E' → NoDigit (mark :: text) := by
    rintro mark text (rfl | rfl) c head
    all_goals
      cases head
      rfl
  cases spelled with
  | none => exact ended.noDigit
  | plain isMark _ | up isMark _ | down isMark _ => exact marks isMark

theorem FractionText.noDigit {fraction : Option (List Nat)} (spelled : FractionText fraction text rest)
    (noDigit : NoDigit rest) : NoDigit text := by
  cases spelled with
  | none => exact noDigit
  | some digits =>
      intro c head
      cases head
      rfl

theorem Digits.read {ds : List Nat} (spelled : Digits ds text rest) (noDigit : NoDigit rest) :
    digits text = (ds, rest) := by
  induction spelled with
  | @last c d rest digit =>
      have none : digits rest = ([], rest) := by
        cases rest with
        | nil => rfl
        | cons next after =>
            have stop : digit? next = Option.none := noDigit next rfl
            simp only [digits, stop]
      simp only [digits, digit, none]
  | more digit later ih => simp only [digits, digit, ih noDigit]

theorem Digits.ne_nil {ds : List Nat} (spelled : Digits ds text rest) : ds ≠ [] := by
  cases spelled <;> simp

theorem Digits.length_lt {ds : List Nat} (spelled : Digits ds text rest) :
    rest.length < text.length := by
  induction spelled with
  | last digit => exact Nat.lt_succ_self _
  | more digit later ih => exact Nat.lt_succ_of_lt ih

theorem Digits.due {ds : List Nat} (skipped : Bool) (spelled : Digits ds text rest)
    (noDigit : NoDigit rest) :
    (digitsDue skipped text : Except (Problem α) (List Nat × List Char)) = .ok (ds, rest) := by
  have some := spelled.ne_nil
  rw [digitsDue, spelled.read noDigit]
  cases ds with
  | nil => exact absurd rfl some
  | cons d ds => rfl

theorem Digits.whole {ds : List Nat} (skipped : Bool) (spelled : Digits ds text rest)
    (noDigit : NoDigit rest) (noLeadingZero : ds.head? = some 0 → ds = [0]) :
    (wholeDigits skipped text : Except (Problem α) (List Nat × List Char)) = .ok (ds, rest) := by
  rw [wholeDigits, spelled.due skipped noDigit]
  split
  · rename_i leading
    cases leading
    cases noLeadingZero rfl
  · rfl

theorem Digits.head {ds : List Nat} (spelled : Digits ds text rest) :
    ∃ c d after, text = c :: after ∧ digit? c = some d := by
  cases spelled with
  | @last c d _ digit | @more c d _ after _ digit _ => exact ⟨c, d, _, rfl, digit⟩

theorem ne_of_digit {c other : Char} {d : Nat} (digit : digit? c = some d)
    (none : digit? other = none) : c ≠ other := by
  rintro rfl
  rw [none] at digit
  cases digit

theorem Ended.mark {c : Char} (mark : (isBlank c || c = ',' || c = ']' || c = '}') = true) :
    Ended (c :: rest) := by
  intro other head
  cases head
  simpa [or_assoc] using mark

/-- A number does not end before any other character. -/
theorem Ended.absurd {c : Char} (ended : Ended (c :: rest)) (solid : isBlank c = false)
    (comma : c ≠ ',') (bracket : c ≠ ']') (brace : c ≠ '}') : False := by
  rcases ended c rfl with blank | same | same | same
  · rw [solid] at blank
    cases blank
  · exact comma same
  · exact bracket same
  · exact brace same

theorem FractionText.read {fraction : Option (List Nat)} (skipped : Bool)
    (spelled : FractionText fraction text rest) (noDigit : NoDigit rest)
    (noPoint : ∀ after, rest ≠ '.' :: after) :
    (fractionDigits skipped text : Except (Problem α) (Option (List Nat) × List Char)) =
      .ok (fraction, rest) := by
  cases spelled with
  | none =>
      unfold fractionDigits
      split
      · exact absurd rfl (noPoint _)
      · rfl
  | some digits =>
      rw [fractionDigits, digits.due skipped noDigit]
      rfl

theorem PowerText.noPoint {power : Option (Bool × List Nat)} (spelled : PowerText power text rest)
    (ended : Ended rest) (after : List Char) : text ≠ '.' :: after := by
  rintro rfl
  cases spelled with
  | none => exact ended.absurd rfl (by decide) (by decide) (by decide)
  | plain isMark _ | up isMark _ | down isMark _ => rcases isMark with same | same <;> cases same

theorem PowerText.read {power : Option (Bool × List Nat)} (skipped : Bool)
    (spelled : PowerText power text rest) (ended : Ended rest) :
    (powerDigits skipped text : Except (Problem α) (Option (Bool × List Nat) × List Char)) =
      .ok (power, rest) := by
  cases spelled with
  | none =>
      cases text with
      | nil => rfl
      | cons c after =>
          have noMark : ¬ (c = 'e' ∨ c = 'E') := by
            rintro (rfl | rfl)
            · exact ended.absurd rfl (by decide) (by decide) (by decide)
            · exact ended.absurd rfl (by decide) (by decide) (by decide)
          unfold powerDigits
          exact if_neg noMark
  | plain isMark digits =>
      obtain ⟨c, d, after, rfl, digit⟩ := digits.head
      rw [powerDigits, if_pos isMark, digits.due skipped ended.noDigit]
      · rfl
      · exact fun _ same => ne_of_digit digit (by rfl) (List.cons.inj same).1
      · exact fun _ same => ne_of_digit digit (by rfl) (List.cons.inj same).1
  | up isMark digits =>
      rw [powerDigits, if_pos isMark, digits.due skipped ended.noDigit]
      rfl
  | down isMark digits =>
      rw [powerDigits, if_pos isMark, digits.due skipped ended.noDigit]
      rfl

theorem NumeralText.read {n : Numeral} (skipped : Bool) (spelled : NumeralText n text rest) :
    (numeral skipped text : Except (Problem α) (Numeral × List Char)) = .ok (n, rest) := by
  obtain ⟨⟨afterWhole, afterFraction, whole, fraction, power⟩, noLeadingZero, ended⟩ := spelled
  have beforePower := power.noDigit ended
  rw [numeral, whole.whole skipped (fraction.noDigit beforePower) noLeadingZero]
  change (fractionDigits skipped afterWhole >>= _) = _
  rw [fraction.read skipped beforePower (power.noPoint ended)]
  change (powerDigits skipped afterFraction >>= _) = _
  rw [power.read skipped ended]
  rfl

theorem NumeralText.head {n : Numeral} (spelled : NumeralText n text rest) :
    ∃ c d after, text = c :: after ∧ digit? c = some d := by
  obtain ⟨⟨_, _, whole, _⟩, _, _⟩ := spelled
  exact whole.head

theorem NumberText.read [Scalar α] {isNegative : Bool} {n : Numeral}
    (spelled : NumberText isNegative n text rest) :
    (number text : Except (Problem α) (Number α × List Char)) =
      (n.value isNegative).map fun read => (read, rest) := by
  have finish : ∀ isNegative : Bool,
      ((n.value isNegative : Except (Problem α) (Number α)) >>= fun read => .ok (read, rest)) =
        (n.value isNegative).map fun read => (read, rest) := by
    intro isNegative
    cases (n.value isNegative : Except (Problem α) (Number α)) <;> rfl
  cases spelled with
  | positive unsigned =>
      obtain ⟨c, d, after, rfl, digit⟩ := unsigned.head
      unfold number
      split
      rename_i signed
      split at signed
      · rename_i same
        exact absurd (List.cons.inj same).1 (ne_of_digit digit (by rfl))
      · cases signed
        rw [unsigned.read]
        exact finish false
  | @negative _ after _ unsigned =>
      change (numeral false after >>= _) = _
      rw [unsigned.read]
      exact finish true

theorem NumberText.skip {isNegative : Bool} {n : Numeral}
    (spelled : NumberText isNegative n text rest) :
    (skipNumber text : Except (Problem α) (List Char)) = .ok rest := by
  cases spelled with
  | positive unsigned =>
      obtain ⟨c, d, after, rfl, digit⟩ := unsigned.head
      unfold skipNumber
      split
      · rename_i same
        exact absurd (List.cons.inj same).1 (ne_of_digit digit (by rfl))
      · change (numeral true (c :: after) >>= _) = _
        rw [unsigned.read]
        rfl
  | @negative _ after _ unsigned =>
      change (numeral true after >>= _) = _
      rw [unsigned.read]
      rfl

theorem FractionText.length_le {fraction : Option (List Nat)}
    (spelled : FractionText fraction text rest) : rest.length ≤ text.length := by
  cases spelled with
  | none => exact Nat.le_refl _
  | some digits => exact Nat.le_succ_of_le (Nat.le_of_lt digits.length_lt)

theorem PowerText.length_le {power : Option (Bool × List Nat)}
    (spelled : PowerText power text rest) : rest.length ≤ text.length := by
  cases spelled with
  | none => exact Nat.le_refl _
  | plain _ digits => exact Nat.le_succ_of_le (Nat.le_of_lt digits.length_lt)
  | up _ digits | down _ digits => exact Nat.le_succ_of_le (Nat.le_succ_of_le (Nat.le_of_lt digits.length_lt))

theorem NumeralText.length_lt {n : Numeral} (spelled : NumeralText n text rest) :
    rest.length < text.length := by
  obtain ⟨⟨_, _, whole, fraction, power⟩, _, _⟩ := spelled
  exact Nat.lt_of_le_of_lt (Nat.le_trans power.length_le fraction.length_le) whole.length_lt

theorem NumberText.length_lt {isNegative : Bool} {n : Numeral}
    (spelled : NumberText isNegative n text rest) : rest.length < text.length := by
  cases spelled with
  | positive unsigned => exact unsigned.length_lt
  | negative unsigned => exact Nat.lt_succ_of_lt unsigned.length_lt

/-- A number begins with a minus sign or a digit. -/
theorem NumberText.head {isNegative : Bool} {n : Numeral}
    (spelled : NumberText isNegative n text rest) :
    ∃ c after, text = c :: after ∧ (c = '-' ∨ (digit? c).isSome) := by
  cases spelled with
  | positive unsigned =>
      obtain ⟨c, d, after, rfl, digit⟩ := unsigned.head
      exact ⟨c, after, rfl, .inr (by rw [digit]; rfl)⟩
  | negative unsigned => exact ⟨'-', _, rfl, .inl rfl⟩

/-! ## Strings -/

theorem QuadText.read {code : Nat} (spelled : QuadText code text rest) :
    (hexQuad text : Except (Problem α) (Nat × List Char)) = .ok (code, rest) := by
  cases spelled with
  | digits first second third fourth => simp only [hexQuad, first, second, third, fourth]

theorem QuadText.length {code : Nat} (spelled : QuadText code text rest) :
    text.length = rest.length + 4 := by
  cases spelled
  rfl

theorem ShortEscape.read {mark meant : Char} (short : ShortEscape mark meant) (text : List Char) :
    (escaped (mark :: text) : Except (Problem α) (Char × List Char)) = .ok (meant, text) := by
  cases short <;> rfl

theorem ShortEscape.skip {mark meant : Char} (short : ShortEscape mark meant) (text : List Char) :
    (skipEscape (mark :: text) : Except (Problem α) (List Char)) = .ok text := by
  cases short <;> rfl

theorem QuadText.skip {code : Nat} (spelled : QuadText code text rest) :
    (skipEscape ('u' :: text) : Except (Problem α) (List Char)) = .ok rest := by
  rw [skipEscape, spelled.read]
  rfl

theorem QuadText.unit {code : Nat} (spelled : QuadText code text rest)
    (whole : code < 0xD800 ∨ 0xDFFF < code) :
    (escaped ('u' :: text) : Except (Problem α) (Char × List Char)) =
      .ok (Char.ofNat code, rest) := by
  rw [escaped, spelled.read]
  change (if _ then _ else if _ then _ else _) = _
  rw [if_neg (by omega), if_neg (by omega)]

theorem QuadText.pair {high low : Nat} {second : List Char}
    (highQuad : QuadText high text ('\\' :: 'u' :: second)) (lowQuad : QuadText low second rest)
    (isHigh : 0xD800 ≤ high ∧ high ≤ 0xDBFF) (isLow : 0xDC00 ≤ low ∧ low ≤ 0xDFFF) :
    (escaped ('u' :: text) : Except (Problem α) (Char × List Char)) =
      .ok (Char.ofNat ((high - 0xD800) * 0x400 + (low - 0xDC00) + 0x10000), rest) := by
  rw [escaped, highQuad.read]
  change (if _ then _ else if _ then lowHalf high ('\\' :: 'u' :: second) else _) = _
  rw [if_neg (by omega), if_pos isHigh, lowHalf, lowQuad.read]
  exact if_pos isLow

/-- Every character that is meant takes one character at least, and so does the closing quote. -/
theorem Spelled.length_lt {cs : List Char} (spelled : Spelled cs text rest) :
    cs.length + rest.length < text.length := by
  induction spelled with
  | close rest => simp
  | plain plain later ih | short short later ih =>
      simp only [List.length_cons]
      omega
  | unit quad whole later ih =>
      have taken := quad.length
      simp only [List.length_cons]
      omega
  | pair highQuad lowQuad isHigh isLow later ih =>
      have first := highQuad.length
      have second := lowQuad.length
      simp only [List.length_cons] at first ⊢
      omega

section Text

variable {fuel : Nat} {c meant : Char} {collected after : List Char}

theorem textFrom_plain (plain : Plain c) :
    (textFrom (fuel + 1) collected (c :: text) : Except (Problem α) (List Char × List Char)) =
      textFrom fuel (c :: collected) text := by
  rw [textFrom, if_neg plain.noQuote, if_neg plain.noEscape, if_neg (Nat.not_lt.2 plain.printable)]

theorem textFrom_escape
    (escape : (escaped text : Except (Problem α) (Char × List Char)) = .ok (meant, after)) :
    (textFrom (fuel + 1) collected ('\\' :: text) : Except (Problem α) (List Char × List Char)) =
      textFrom fuel (meant :: collected) after := by
  rw [textFrom, if_neg (by decide), if_pos rfl, escape]
  rfl

theorem skipTextFrom_plain (plain : Plain c) :
    (skipTextFrom (fuel + 1) (c :: text) : Except (Problem α) (List Char)) =
      skipTextFrom fuel text := by
  rw [skipTextFrom, if_neg plain.noQuote, if_neg plain.noEscape,
    if_neg (Nat.not_lt.2 plain.printable)]

theorem skipTextFrom_escape
    (escape : (skipEscape text : Except (Problem α) (List Char)) = .ok after) :
    (skipTextFrom (fuel + 1) ('\\' :: text) : Except (Problem α) (List Char)) =
      skipTextFrom fuel after := by
  rw [skipTextFrom, if_neg (by decide), if_pos rfl, escape]
  rfl

end Text

theorem Spelled.textFrom {cs : List Char} (spelled : Spelled cs text rest) :
    ∀ (fuel : Nat) (collected : List Char),
      (textFrom (fuel + (cs.length + 1)) collected text : Except (Problem α) (List Char × List Char)) =
        .ok (collected.reverse ++ cs, rest) := by
  -- The fuel that a character takes is one, whatever stands for it in the text.
  induction spelled with
  | close rest =>
      intro fuel collected
      rw [List.append_nil]
      rfl
  | plain plain later ih =>
      intro fuel collected
      rw [List.length_cons, ← Nat.add_assoc, textFrom_plain plain, ih, List.reverse_cons,
        List.append_assoc, List.singleton_append]
  | short short later ih =>
      intro fuel collected
      rw [List.length_cons, ← Nat.add_assoc, textFrom_escape (short.read _), ih, List.reverse_cons,
        List.append_assoc, List.singleton_append]
  | unit quad whole later ih =>
      intro fuel collected
      rw [List.length_cons, ← Nat.add_assoc, textFrom_escape (quad.unit whole), ih,
        List.reverse_cons, List.append_assoc, List.singleton_append]
  | pair highQuad lowQuad isHigh isLow later ih =>
      intro fuel collected
      rw [List.length_cons, ← Nat.add_assoc,
        textFrom_escape (highQuad.pair lowQuad isHigh isLow), ih, List.reverse_cons,
        List.append_assoc, List.singleton_append]

theorem Spelled.read {cs : List Char} (spelled : Spelled cs text rest) :
    (quotedText text : Except (Problem α) (String × List Char)) = .ok (String.ofList cs, rest) := by
  have taken := spelled.length_lt
  have bounded : cs.length + 1 ≤ text.length + 1 := by omega
  obtain ⟨fuel, enough⟩ := Nat.exists_eq_add_of_le' bounded
  rw [quotedText, enough, spelled.textFrom fuel []]
  rfl

theorem Quoted.length_lt (quoted : Quoted text rest) : rest.length < text.length := by
  induction quoted with
  | close rest => exact Nat.lt_succ_self _
  | plain plain later ih | short short later ih =>
      simp only [List.length_cons]
      omega
  | unit quad later ih =>
      have taken := quad.length
      simp only [List.length_cons]
      omega

theorem Quoted.skipTextFrom (quoted : Quoted text rest) :
    ∃ cost ≤ text.length, ∀ fuel,
      (skipTextFrom (fuel + cost) text : Except (Problem α) (List Char)) = .ok rest := by
  induction quoted with
  | close rest => exact ⟨1, Nat.succ_le_succ (Nat.zero_le _), fun fuel => rfl⟩
  | plain plain later ih =>
      obtain ⟨cost, bounded, skipped⟩ := ih
      exact ⟨cost + 1, Nat.succ_le_succ bounded, fun fuel =>
        (skipTextFrom_plain plain).trans (skipped fuel)⟩
  | short short later ih =>
      obtain ⟨cost, bounded, skipped⟩ := ih
      exact ⟨cost + 1, Nat.succ_le_succ (Nat.le_succ_of_le bounded), fun fuel =>
        (skipTextFrom_escape (short.skip _)).trans (skipped fuel)⟩
  | unit quad later ih =>
      obtain ⟨cost, bounded, skipped⟩ := ih
      have taken := quad.length
      exact ⟨cost + 1, by simp only [List.length_cons]; omega, fun fuel =>
        (skipTextFrom_escape quad.skip).trans (skipped fuel)⟩

theorem Quoted.skip (quoted : Quoted text rest) :
    (skipText text : Except (Problem α) (List Char)) = .ok rest := by
  obtain ⟨cost, bounded, skipped⟩ := quoted.skipTextFrom
  obtain ⟨fuel, enough⟩ := Nat.exists_eq_add_of_le' bounded
  rw [skipText, enough, Nat.add_right_comm]
  exact skipped (fuel + 1)

/-- What spells characters is a string in particular. -/
theorem Spelled.quoted {cs : List Char} (spelled : Spelled cs text rest) : Quoted text rest := by
  induction spelled with
  | close rest => exact .close rest
  | plain plain later ih => exact .plain plain ih
  | short short later ih => exact .short short ih
  | unit quad whole later ih => exact .unit quad ih
  | pair highQuad lowQuad isHigh isLow later ih => exact .unit highQuad (.unit lowQuad ih)

/-- What comes before the value of a member takes characters. -/
theorem Quoted.valued_lt {named valued : List Char} (quoted : Quoted text named)
    (colon : Blanks named (':' :: valued)) : valued.length < text.length :=
  Nat.lt_trans (Nat.lt_of_succ_le colon.length_le) quoted.length_lt

theorem finishWord_append (letters rest : List Char) :
    (finishWord letters (letters ++ rest) : Except (Problem α) (List Char)) = .ok rest := by
  induction letters with
  | nil => cases rest <;> rfl
  | cons letter letters ih => rw [List.cons_append, finishWord, if_pos rfl, ih]

end Sightline.Json
