import Sightline.Json.Value

/-!
# Readers of records

A record is a mapping from the names of its fields, in any order, or a sequence of its fields in
their own order.  A field that need not be given keeps the value it has in the draft.  A name given
twice is refused when it is met again, a missing name at the end of the mapping.
-/

set_option autoImplicit false

namespace Sightline.Json

variable {α σ : Type} [Scalar α]

structure Field (α σ : Type) where
  name : String
  required : Bool
  enter : σ → Reader α σ

def Field.of {ρ : Type} (name : String) (required : Bool) (reader : Reader α ρ)
    (put : σ → ρ → σ) : Field α σ where
  name := name
  required := required
  enter := fun draft text => do
    let (value, rest) ← reader text
    .ok (put draft value, rest)

structure Record (α σ : Type) where
  title : String
  fields : List (Field α σ)
  /-- A name that is no field is refused; otherwise its value is passed over. -/
  strict : Bool
  draft : σ

namespace Record

/-- Enters the fields of a sequence in turn; once it has ended, no required field may be left. -/
def enterElements (record : Record α σ) :
    Nat → List (Field α σ) → σ → List Char → Except (Problem α) (σ × List Char)
  | _, [], draft, text => .ok (draft, text)
  | index, field :: later, draft, text => do
    let (more, text) ← nextElement (index = 0) text
    if more then
      let (draft, text) ← field.enter draft text
      record.enterElements (index + 1) later draft text
    else if field.required then
      .error (.mismatch (.tooShort index record.title record.fields.length))
    else record.enterElements (index + 1) later draft text

def nextMember (isFirst : Bool) (text : List Char) : Except (Problem α) (Bool × List Char) :=
  match skipBlanks text with
  | [] => .error .cut
  | '}' :: rest => .ok (false, rest)
  | '"' :: rest => if isFirst then .ok (true, rest) else .error .malformed
  | ',' :: rest =>
    if isFirst then .error .malformed
    else
      match skipBlanks rest with
      | [] => .error .cut
      | '"' :: after => .ok (true, after)
      | _ => .error .malformed
  | _ => .error .malformed

def missing? (record : Record α σ) (met : List String) : Option String :=
  (record.fields.find? fun field => field.required && !met.contains field.name).map (·.name)

/-- Enters the members up to the end mark; `fuel` bounds their number. -/
def enterMembers (record : Record α σ) :
    Nat → Bool → List String → σ → List Char → Except (Problem α) (σ × List Char)
  | 0, _, _, _, _ => .error .malformed
  | fuel + 1, isFirst, met, draft, text => do
    let (more, text) ← nextMember isFirst text
    if more then
      let (name, text) ← quotedText text
      match record.fields.find? (·.name = name) with
      | some field =>
        if met.contains name then .error (.mismatch (.repeatedField name))
        else
          let (draft, text) ← field.enter draft (← colon text)
          record.enterMembers fuel false (name :: met) draft text
      | none =>
        if record.strict then
          .error (.mismatch (.unknownField name (record.fields.map (·.name))))
        else
          record.enterMembers fuel false met draft (← skipValue (← colon text))
    else
      match record.missing? met with
      | some name => .error (.mismatch (.missingField name))
      | none => .ok (draft, text)

def reader (record : Record α σ) : Reader α σ := fun text =>
  match skipBlanks text with
  | [] => .error .cut
  | '[' :: rest => do
    let (value, rest) ← record.enterElements 0 record.fields record.draft rest
    .ok (value, ← endSequence rest)
  | '{' :: rest => record.enterMembers (rest.length + 1) true [] record.draft rest
  | c :: rest => refuse record.title c rest

end Record

end Sightline.Json
