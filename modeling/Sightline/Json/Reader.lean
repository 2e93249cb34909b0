import Sightline.Json.Problem

/-!
# Readers

A reader takes what is left of a text and answers with a value and what is left after it, or with
the first problem that it met.
-/

set_option autoImplicit false

namespace Sightline.Json

abbrev Reader (α ρ : Type) := List Char → Except (Problem α) (ρ × List Char)

variable {α ρ : Type}

def isBlank (c : Char) : Bool := c = ' ' || c = '\n' || c = '\t' || c = '\r'

def skipBlanks (text : List Char) : List Char := text.dropWhile isBlank

def finishWord : List Char → List Char → Except (Problem α) (List Char)
  | [], text => .ok text
  | _ :: _, [] => .error .cut
  | letter :: letters, c :: text => if c = letter then finishWord letters text else .error .malformed

def colon (text : List Char) : Except (Problem α) (List Char) :=
  match skipBlanks text with
  | [] => .error .cut
  | ':' :: rest => .ok rest
  | _ => .error .malformed

def readAll (reader : Reader α ρ) (text : String) : Except (Problem α) ρ := do
  let (value, rest) ← reader text.toList
  match skipBlanks rest with
  | [] => .ok value
  | _ => .error .malformed

end Sightline.Json
