import Sightline.Json.Reader

/-!
# Strings of a document

A string is read after its opening quote.  A character outside the basic plane may be given by two
escapes; half of such a pair alone is refused where the string is wanted, and let pass where it is
only skipped.
-/

set_option autoImplicit false

namespace Sightline.Json

variable {α : Type}

def hexDigit? (c : Char) : Option Nat :=
  if '0' ≤ c ∧ c ≤ '9' then some (c.toNat - 48)
  else if 'a' ≤ c ∧ c ≤ 'f' then some (c.toNat - 87)
  else if 'A' ≤ c ∧ c ≤ 'F' then some (c.toNat - 55)
  else none

/-- The four hexadecimal digits of an escape.  With fewer than four bytes left the text is cut. -/
def hexQuad : Reader α Nat
  | a :: b :: c :: d :: rest =>
    match hexDigit? a, hexDigit? b, hexDigit? c, hexDigit? d with
    | some a, some b, some c, some d => .ok (((a * 16 + b) * 16 + c) * 16 + d, rest)
    | _, _, _, _ => .error .malformed
  | short =>
    if short.foldl (fun bytes c => bytes + c.utf8Size) 0 < 4 then .error .cut else .error .malformed

def lowHalf (high : Nat) : Reader α Char
  | [] => .error .cut
  | '\\' :: [] => .error .cut
  | '\\' :: 'u' :: text => do
    let (low, rest) ← hexQuad text
    if 0xDC00 ≤ low ∧ low ≤ 0xDFFF then
      .ok (Char.ofNat ((high - 0xD800) * 0x400 + (low - 0xDC00) + 0x10000), rest)
    else .error .malformed
  | _ => .error .malformed

def escaped : Reader α Char
  | [] => .error .cut
  | 'u' :: text => do
    let (code, rest) ← hexQuad text
    if 0xDC00 ≤ code ∧ code ≤ 0xDFFF then .error .malformed
    else if 0xD800 ≤ code ∧ code ≤ 0xDBFF then lowHalf code rest
    else .ok (Char.ofNat code, rest)
  | c :: text =>
    match c with
    | '"' => .ok ('"', text)
    | '\\' => .ok ('\\', text)
    | '/' => .ok ('/', text)
    | 'b' => .ok ('\x08', text)
    | 'f' => .ok ('\x0c', text)
    | 'n' => .ok ('\n', text)
    | 'r' => .ok ('\r', text)
    | 't' => .ok ('\t', text)
    | _ => .error .malformed

def skipEscape : List Char → Except (Problem α) (List Char)
  | 'u' :: text => do return (← hexQuad text).2
  | text => do return (← escaped text).2

/-- The characters up to the closing quote, collected in reverse; `fuel` bounds their number. -/
def textFrom : Nat → List Char → Reader α (List Char)
  | 0, _, _ => .error .cut
  | _ + 1, _, [] => .error .cut
  | fuel + 1, collected, c :: text =>
    if c = '"' then .ok (collected.reverse, text)
    else if c = '\\' then do
      let (meant, rest) ← escaped text
      textFrom fuel (meant :: collected) rest
    else if c.toNat < 0x20 then .error .malformed
    else textFrom fuel (c :: collected) text

def quotedText : Reader α String := fun text => do
  let (characters, rest) ← textFrom (text.length + 1) [] text
  .ok (String.ofList characters, rest)

def skipTextFrom : Nat → List Char → Except (Problem α) (List Char)
  | 0, _ => .error .cut
  | _ + 1, [] => .error .cut
  | fuel + 1, c :: text =>
    if c = '"' then .ok text
    else if c = '\\' then do skipTextFrom fuel (← skipEscape text)
    else if c.toNat < 0x20 then .error .malformed
    else skipTextFrom fuel text

def skipText (text : List Char) : Except (Problem α) (List Char) :=
  skipTextFrom (text.length + 1) text

end Sightline.Json
