import Sightline.Json.Skip

/-!
# Readers of plain values

Each reader names what it expects.  A value of another type is read as far as its type shows, and
reported with that name; a sequence or a mapping shows its type with its first mark.
-/

set_option autoImplicit false

namespace Sightline.Json

variable {α ρ : Type} [Scalar α]

def Number.found : Number α → Found α
  | .natural n => .natural n
  | .negative n => .negative n
  | .real x => .real x

def found (first : Char) (rest : List Char) : Except (Problem α) (Found α) :=
  if first = 'n' then do
    let _ ← (finishWord ['u', 'l', 'l'] rest : Except (Problem α) (List Char))
    .ok .null
  else if first = 't' then do
    let _ ← (finishWord ['r', 'u', 'e'] rest : Except (Problem α) (List Char))
    .ok (.boolean true)
  else if first = 'f' then do
    let _ ← (finishWord ['a', 'l', 's', 'e'] rest : Except (Problem α) (List Char))
    .ok (.boolean false)
  else if first = '-' || (digit? first).isSome then do
    let (n, _) ← number (first :: rest)
    .ok n.found
  else if first = '"' then do
    let (text, _) ← quotedText rest
    .ok (.text text)
  else if first = '[' then .ok .sequence
  else if first = '{' then .ok .mapping
  else .error .malformed

def refuse (expected : String) (first : Char) (rest : List Char) : Except (Problem α) ρ := do
  .error (.mismatch (.wrongType (← found first rest) expected))

def numberOr (expected : String) : Reader α (Number α) := fun text =>
  match skipBlanks text with
  | [] => .error .cut
  | c :: rest =>
    if c = '-' || (digit? c).isSome then number (c :: rest) else refuse expected c rest

def scalarReader : Reader α α := fun text => do
  let (n, rest) ← numberOr "f64" text
  .ok (n.toScalar, rest)

def countReader (expected : String) : Reader α Nat := fun text => do
  let (n, rest) ← numberOr expected text
  match n with
  | .natural count => .ok (count, rest)
  | .negative magnitude => .error (.mismatch (.belowZero magnitude expected))
  | .real x => .error (.mismatch (.wrongType (.real x) expected))

def textReader : Reader α String := fun text =>
  match skipBlanks text with
  | [] => .error .cut
  | '"' :: rest => quotedText rest
  | c :: rest => refuse "a string" c rest

/-- Whether another element of a sequence follows; `isFirst` says that none has been read.  The end
mark is left in place. -/
def nextElement (isFirst : Bool) (text : List Char) : Except (Problem α) (Bool × List Char) :=
  match skipBlanks text with
  | [] => .error .cut
  | ']' :: rest => .ok (false, ']' :: rest)
  | c :: rest =>
    if isFirst then .ok (true, c :: rest)
    else if c = ',' then
      match skipBlanks rest with
      | [] => .error .cut
      | ']' :: _ => .error .malformed
      | after => .ok (true, after)
    else .error .malformed

def endSequence (text : List Char) : Except (Problem α) (List Char) :=
  match skipBlanks text with
  | [] => .error .cut
  | ']' :: rest => .ok rest
  | _ => .error .malformed

def elementsFrom (reader : Reader α ρ) : Nat → List ρ → List Char → Except (Problem α) (List ρ × List Char)
  | 0, _, _ => .error .malformed
  | fuel + 1, collected, text => do
    let (more, text) ← nextElement collected.isEmpty text
    if more then
      let (element, text) ← reader text
      elementsFrom reader fuel (element :: collected) text
    else .ok (collected.reverse, ← endSequence text)

def sequenceReader (reader : Reader α ρ) : Reader α (List ρ) := fun text =>
  match skipBlanks text with
  | [] => .error .cut
  | '[' :: rest => elementsFrom reader (rest.length + 1) [] rest
  | c :: rest => refuse "a sequence" c rest

def optionReader (reader : Reader α ρ) : Reader α (Option ρ) := fun text =>
  match skipBlanks text with
  | 'n' :: rest => do .ok (none, ← finishWord ['u', 'l', 'l'] rest)
  | text => do
    let (value, rest) ← reader text
    .ok (some value, rest)

end Sightline.Json
