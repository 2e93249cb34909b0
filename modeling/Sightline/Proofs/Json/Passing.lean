import Sightline.Proofs.Json.Tokens

/-!
# Well-formed values are passed over

The walk keeps its own stack, so what is proved is that each part of the grammar takes it from what
is due before the part to the same stack after it, in a number of steps that the characters of the
part pay for, three each.
-/

set_option autoImplicit false

namespace Sightline.Json

variable {α : Type} {text rest : List Char} {c : Char}

/-- Something comes next that is not the end of a sequence or a mapping. -/
def Opens (text : List Char) : Prop :=
  ∃ c after, Blanks text (c :: after) ∧ isBlank c = false ∧ c ≠ ']' ∧ c ≠ '}'

theorem Opens.before {text later : List Char} (blanks : Blanks text later) (opens : Opens later) :
    Opens text := by
  obtain ⟨c, after, more, solid, notEnd⟩ := opens
  exact ⟨c, after, blanks.trans more, solid, notEnd⟩

theorem solid_of_digit (digit : (digit? c).isSome) : isBlank c = false := by
  cases blank : isBlank c with
  | false => rfl
  | true =>
      rw [digit?_of_blank blank] at digit
      cases digit

theorem NumberText.solid {isNegative : Bool} {n : Numeral}
    (number : NumberText isNegative n (c :: text) rest) : isBlank c = false := by
  obtain ⟨_, _, same, rfl | digit⟩ := number.head
  · cases same
    rfl
  · cases same
    exact solid_of_digit digit

theorem NumberText.first_ne {isNegative : Bool} {n : Numeral} {other : Char}
    (number : NumberText isNegative n (c :: text) rest) (noSign : other ≠ '-')
    (noDigit : digit? other = none) : c ≠ other := by
  obtain ⟨_, _, same, first⟩ := number.head
  cases same
  rintro rfl
  rcases first with sign | digit
  · exact noSign sign
  · rw [noDigit] at digit
    cases digit

theorem NumberText.opens {isNegative : Bool} {n : Numeral}
    (number : NumberText isNegative n text rest) : Opens text := by
  obtain ⟨c, after, rfl, _⟩ := number.head
  exact ⟨c, after, .none _, number.solid, number.first_ne (by decide) rfl,
    number.first_ne (by decide) rfl⟩

theorem Wellformed.opens {part : Part} (wellformed : Wellformed part text rest) : Opens text := by
  induction wellformed with
  | null word | true word | false word => exact ⟨_, _, word, rfl, by decide, by decide⟩
  | text opening _ | emptySequence opening _ | sequence opening _ _ | emptyMapping opening _
  | mapping opening _ _ | member opening _ _ _ | members opening _ _ _ _ _ =>
      exact ⟨_, _, opening, rfl, by decide, by decide⟩
  | number blanks number => exact number.opens.before blanks
  | element value ih | elements value comma later ih => exact ih

/-! ## Steps of the walk -/

section Steps

variable {fuel : Nat} {within outer : List Enclosure} {inner : Enclosure}

/-- What the walk does where a character comes next, for everything that can be due there. -/
structure Steps (α : Type) (fuel : Nat) (text : List Char) (c : Char) (rest : List Char) : Prop where
  value : ∀ within, (skipFrom (fuel + 1) .value within text : Except (Problem α) (List Char)) =
    if c = '[' then skipFrom fuel .first (.sequence :: within) rest
    else if c = '{' then skipFrom fuel .first (.mapping :: within) rest
    else skipLeaf c rest >>= skipFrom fuel .next within
  first : ∀ inner outer,
    (skipFrom (fuel + 1) .first (inner :: outer) text : Except (Problem α) (List Char)) =
      if c = inner.mark then skipFrom fuel .next outer rest
      else skipFrom fuel .member (inner :: outer) (c :: rest)
  next : ∀ inner outer,
    (skipFrom (fuel + 1) .next (inner :: outer) text : Except (Problem α) (List Char)) =
      if c = ',' then skipFrom fuel .member (inner :: outer) rest
      else if c = inner.mark then skipFrom fuel .next outer rest
      else .error .malformed
  member : ∀ outer,
    (skipFrom (fuel + 1) .member (.mapping :: outer) text : Except (Problem α) (List Char)) =
      skipName (c :: rest) >>= skipFrom fuel .value (.mapping :: outer)
  element : ∀ outer,
    (skipFrom (fuel + 1) .member (.sequence :: outer) text : Except (Problem α) (List Char)) =
      skipFrom fuel .value (.sequence :: outer) (c :: rest)

theorem steps_of_reached (reached : skipBlanks text = c :: rest) : Steps α fuel text c rest := by
  constructor <;> intros <;> simp only [skipFrom, reached]

theorem Blanks.steps (blanks : Blanks text (c :: rest)) (solid : isBlank c = false) :
    Steps α fuel text c rest :=
  steps_of_reached (blanks.reach solid)

/-- Blanks before a value make no difference. -/
theorem skipFrom_value_solid (blanks : Blanks text (c :: rest)) (solid : isBlank c = false) :
    (skipFrom fuel .value within (c :: rest) : Except (Problem α) (List Char)) =
      skipFrom fuel .value within text := by
  cases fuel with
  | zero => rfl
  | succ fuel => rw [(blanks.steps solid).value, ((Blanks.none (c :: rest)).steps solid).value]

theorem skipFrom_member_solid (blanks : Blanks text (c :: rest)) (solid : isBlank c = false) :
    (skipFrom fuel .member (inner :: outer) (c :: rest) : Except (Problem α) (List Char)) =
      skipFrom fuel .member (inner :: outer) text := by
  cases fuel with
  | zero => rfl
  | succ fuel =>
      cases inner with
      | mapping => rw [(blanks.steps solid).member, ((Blanks.none (c :: rest)).steps solid).member]
      | sequence => rw [(blanks.steps solid).element, ((Blanks.none (c :: rest)).steps solid).element]

theorem skipFrom_leaf {after : List Char} (blanks : Blanks text (c :: after))
    (solid : isBlank c = false) (noSequence : c ≠ '[') (noMapping : c ≠ '{')
    (leaf : (skipLeaf c after : Except (Problem α) (List Char)) = .ok rest) :
    (skipFrom (fuel + 1) .value within text : Except (Problem α) (List Char)) =
      skipFrom fuel .next within rest := by
  rw [(blanks.steps solid).value, if_neg noSequence, if_neg noMapping, leaf]
  rfl

theorem skipFrom_sequence (opening : Blanks text ('[' :: rest)) :
    (skipFrom (fuel + 1) .value within text : Except (Problem α) (List Char)) =
      skipFrom fuel .first (.sequence :: within) rest := by
  rw [(opening.steps rfl).value, if_pos rfl]

theorem skipFrom_mapping (opening : Blanks text ('{' :: rest)) :
    (skipFrom (fuel + 1) .value within text : Except (Problem α) (List Char)) =
      skipFrom fuel .first (.mapping :: within) rest := by
  rw [(opening.steps rfl).value, if_neg (by decide), if_pos rfl]

theorem Enclosure.mark_solid (inner : Enclosure) : isBlank inner.mark = false := by
  cases inner <;> rfl

theorem Enclosure.mark_ne_comma (inner : Enclosure) : inner.mark ≠ ',' := by
  cases inner <;> decide

theorem skipFrom_empty (closing : Blanks text (inner.mark :: rest)) :
    (skipFrom (fuel + 1) .first (inner :: outer) text : Except (Problem α) (List Char)) =
      skipFrom fuel .next outer rest := by
  rw [(closing.steps inner.mark_solid).first, if_pos rfl]

theorem skipFrom_first (opens : Opens text) :
    (skipFrom (fuel + 1) .first (inner :: outer) text : Except (Problem α) (List Char)) =
      skipFrom fuel .member (inner :: outer) text := by
  obtain ⟨c, after, blanks, solid, noSequence, noMapping⟩ := opens
  have notEnd : c ≠ inner.mark := by
    cases inner
    · exact noSequence
    · exact noMapping
  rw [(blanks.steps solid).first, if_neg notEnd]
  exact skipFrom_member_solid blanks solid

theorem skipFrom_close (closing : Blanks text (inner.mark :: rest)) :
    (skipFrom (fuel + 1) .next (inner :: outer) text : Except (Problem α) (List Char)) =
      skipFrom fuel .next outer rest := by
  rw [(closing.steps inner.mark_solid).next, if_neg inner.mark_ne_comma, if_pos rfl]

theorem skipFrom_comma (comma : Blanks text (',' :: rest)) :
    (skipFrom (fuel + 1) .next (inner :: outer) text : Except (Problem α) (List Char)) =
      skipFrom fuel .member (inner :: outer) rest := by
  rw [(comma.steps rfl).next, if_pos rfl]

theorem skipFrom_element (opens : Opens text) :
    (skipFrom (fuel + 1) .member (.sequence :: outer) text : Except (Problem α) (List Char)) =
      skipFrom fuel .value (.sequence :: outer) text := by
  obtain ⟨c, after, blanks, solid, _⟩ := opens
  rw [(blanks.steps solid).element]
  exact skipFrom_value_solid blanks solid

theorem skipFrom_member {quoted named valued : List Char} (opening : Blanks text ('"' :: quoted))
    (name : Quoted quoted named) (colon : Blanks named (':' :: valued)) :
    (skipFrom (fuel + 1) .member (.mapping :: outer) text : Except (Problem α) (List Char)) =
      skipFrom fuel .value (.mapping :: outer) valued := by
  have reached : (skipName ('"' :: quoted) : Except (Problem α) (List Char)) = .ok valued := by
    rw [skipName, skipBlanks_of_solid rfl]
    change (skipText quoted >>= Json.colon) = _
    rw [name.skip]
    exact colon_of_blanks colon
  rw [(opening.steps rfl).member, reached]
  rfl

end Steps

/-! ## The walk over a part -/

def Part.due : Part → Due
  | .value => .value
  | .elements | .members => .member

def Part.within : Part → List Enclosure → List Enclosure
  | .value, outer => outer
  | .elements, outer => .sequence :: outer
  | .members, outer => .mapping :: outer

/-- The steps that are left over when the characters of a part have paid for it. -/
def Part.spare : Part → Nat
  | .value => 2
  | .elements | .members => 1

/-- The walk passes over the part within a number of steps that it can afford. -/
def Passed (α : Type) (part : Part) (text rest : List Char) : Prop :=
  ∃ cost, cost + 3 * rest.length + part.spare ≤ 3 * text.length ∧
    ∀ (fuel : Nat) (outer : List Enclosure),
      (skipFrom (fuel + cost) part.due (part.within outer) text : Except (Problem α) (List Char)) =
        skipFrom fuel .next (part.within outer) rest

theorem Passed.leaf {after : List Char} (blanks : Blanks text (c :: after))
    (solid : isBlank c = false) (noSequence : c ≠ '[') (noMapping : c ≠ '{')
    (leaf : (skipLeaf c after : Except (Problem α) (List Char)) = .ok rest)
    (taken : rest.length ≤ after.length) : Passed α .value text rest := by
  have reached := blanks.length_le
  simp only [List.length_cons] at reached
  exact ⟨1, by simp only [Part.spare]; omega, fun fuel outer =>
    skipFrom_leaf blanks solid noSequence noMapping leaf⟩

theorem skipLeaf_number {isNegative : Bool} {n : Numeral}
    (number : NumberText isNegative n (c :: text) rest) :
    (skipLeaf c text : Except (Problem α) (List Char)) = .ok rest := by
  obtain ⟨_, _, same, first⟩ := number.head
  cases same
  rw [skipLeaf, if_neg (number.first_ne (by decide) rfl), if_neg (number.first_ne (by decide) rfl),
    if_neg (number.first_ne (by decide) rfl), if_neg (number.first_ne (by decide) rfl),
    if_pos (by simpa using first), number.skip]

theorem Passed.empty {inner : List Char} (enclosure : Enclosure)
    (taken : inner.length < text.length) (closing : Blanks inner (enclosure.mark :: rest))
    (opened : ∀ (fuel : Nat) (outer : List Enclosure),
      (skipFrom (fuel + 1) .value outer text : Except (Problem α) (List Char)) =
        skipFrom fuel .first (enclosure :: outer) inner) : Passed α .value text rest := by
  have closed := closing.length_le
  simp only [List.length_cons] at closed
  refine ⟨2, by simp only [Part.spare]; omega, fun fuel outer => ?_⟩
  exact (opened (fuel + 1) outer).trans (skipFrom_empty closing)

theorem Passed.filled {part : Part} {enclosure : Enclosure} {inner after : List Char}
    (shape : part.due = .member ∧ part.spare = 1 ∧ ∀ outer, part.within outer = enclosure :: outer)
    (taken : inner.length < text.length) (opens : Opens inner)
    (closing : Blanks after (enclosure.mark :: rest))
    (opened : ∀ (fuel : Nat) (outer : List Enclosure),
      (skipFrom (fuel + 1) .value outer text : Except (Problem α) (List Char)) =
        skipFrom fuel .first (enclosure :: outer) inner)
    (passed : Passed α part inner after) : Passed α .value text rest := by
  obtain ⟨cost, affordable, walk⟩ := passed
  obtain ⟨due, spare, within⟩ := shape
  have closed := closing.length_le
  simp only [List.length_cons] at closed
  rw [spare] at affordable
  refine ⟨cost + 3, by simp only [Part.spare]; omega, fun fuel outer => ?_⟩
  calc skipFrom (fuel + (cost + 3)) .value outer text
      = skipFrom (fuel + 1 + cost + 1) .first (enclosure :: outer) inner := by
        rw [← opened]
        congr 1
        omega
    _ = skipFrom (fuel + 1 + cost) .member (enclosure :: outer) inner := skipFrom_first opens
    _ = skipFrom (fuel + 1) .next (enclosure :: outer) after := by
        have walked := walk (fuel + 1) outer
        rw [due, within] at walked
        exact walked
    _ = skipFrom fuel .next outer rest := skipFrom_close closing

theorem Wellformed.passed {part : Part} (wellformed : Wellformed part text rest) :
    Passed α part text rest := by
  induction wellformed with
  | null word =>
      exact .leaf word rfl (by decide) (by decide) (finishWord_append ['u', 'l', 'l'] _) (by simp; omega)
  | true word =>
      exact .leaf word rfl (by decide) (by decide) (finishWord_append ['r', 'u', 'e'] _) (by simp; omega)
  | false word =>
      exact .leaf word rfl (by decide) (by decide) (finishWord_append ['a', 'l', 's', 'e'] _)
        (by simp; omega)
  | text opening quoted =>
      exact .leaf opening rfl (by decide) (by decide) quoted.skip (Nat.le_of_lt quoted.length_lt)
  | number blanks number =>
      obtain ⟨c, after, rfl, _⟩ := number.head
      exact .leaf blanks number.solid (number.first_ne (by decide) rfl)
        (number.first_ne (by decide) rfl) (skipLeaf_number number)
        (Nat.le_of_lt_succ number.length_lt)
  | emptySequence opening closing =>
      exact .empty .sequence opening.length_le closing fun _ _ => skipFrom_sequence opening
  | emptyMapping opening closing =>
      exact .empty .mapping opening.length_le closing fun _ _ => skipFrom_mapping opening
  | sequence opening elements closing ih =>
      exact .filled ⟨rfl, rfl, fun _ => rfl⟩ opening.length_le elements.opens closing
        (fun _ _ => skipFrom_sequence opening) ih
  | mapping opening members closing ih =>
      exact .filled ⟨rfl, rfl, fun _ => rfl⟩ opening.length_le members.opens closing
        (fun _ _ => skipFrom_mapping opening) ih
  | element value ih =>
      obtain ⟨cost, affordable, walk⟩ := ih
      refine ⟨cost + 1, by simp only [Part.spare] at affordable ⊢; omega, fun fuel outer => ?_⟩
      exact (skipFrom_element value.opens).trans (walk fuel (.sequence :: outer))
  | elements value comma later ihValue ihLater =>
      obtain ⟨valueCost, valueAffordable, valueWalk⟩ := ihValue
      obtain ⟨laterCost, laterAffordable, laterWalk⟩ := ihLater
      have more := comma.length_le
      simp only [Part.spare, List.length_cons] at *
      refine ⟨laterCost + 1 + valueCost + 1, by simp only [Part.spare]; omega, fun fuel outer => ?_⟩
      rw [← Nat.add_assoc, ← Nat.add_assoc, ← Nat.add_assoc]
      exact (((skipFrom_element value.opens).trans (valueWalk _ (.sequence :: outer))).trans
        (skipFrom_comma comma)).trans (laterWalk fuel outer)
  | member opening name colon value ih =>
      obtain ⟨cost, affordable, walk⟩ := ih
      have named := opening.length_le
      have valued := name.valued_lt colon
      simp only [Part.spare, List.length_cons] at *
      refine ⟨cost + 1, by simp only [Part.spare]; omega, fun fuel outer => ?_⟩
      exact (skipFrom_member opening name colon).trans (walk fuel (.mapping :: outer))
  | members opening name colon value comma later ihValue ihLater =>
      obtain ⟨valueCost, valueAffordable, valueWalk⟩ := ihValue
      obtain ⟨laterCost, laterAffordable, laterWalk⟩ := ihLater
      have named := opening.length_le
      have valued := name.valued_lt colon
      have more := comma.length_le
      simp only [Part.spare, List.length_cons] at *
      refine ⟨laterCost + 1 + valueCost + 1, by simp only [Part.spare]; omega, fun fuel outer => ?_⟩
      rw [← Nat.add_assoc, ← Nat.add_assoc, ← Nat.add_assoc]
      exact (((skipFrom_member opening name colon).trans (valueWalk _ (.mapping :: outer))).trans
        (skipFrom_comma comma)).trans (laterWalk fuel outer)

theorem Wellformed.skip (wellformed : Wellformed .value text rest) :
    (skipValue text : Except (Problem α) (List Char)) = .ok rest := by
  obtain ⟨cost, affordable, walk⟩ := wellformed.passed (α := α)
  simp only [Part.spare] at affordable
  have bounded : cost + 1 ≤ 3 * text.length + 3 := by omega
  obtain ⟨fuel, enough⟩ := Nat.exists_eq_add_of_le' bounded
  rw [skipValue, enough, ← Nat.add_assoc, Nat.add_right_comm]
  exact walk (fuel + 1) []

theorem Wellformed.length_lt (wellformed : Wellformed .value text rest) :
    rest.length < text.length := by
  obtain ⟨cost, affordable, _⟩ := wellformed.passed (α := Unit)
  simp only [Part.spare] at affordable
  omega

end Sightline.Json
