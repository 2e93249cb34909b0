import Sightline.Json.Text
import Sightline.Json.Number

/-!
# Passing over values

A value under a name that is not known has to be well formed, at whatever depth; its numbers may
be out of range and its strings may hold half a pair of escapes.  The walk keeps a stack of the
sequences and mappings that it is in.
-/

set_option autoImplicit false

namespace Sightline.Json

variable {α : Type}

inductive Enclosure where
  | sequence
  | mapping
deriving Repr, DecidableEq

def Enclosure.mark : Enclosure → Char
  | .sequence => ']'
  | .mapping => '}'

inductive Due where
  | value
  | first
  | next
  | member
deriving Repr, DecidableEq

def skipName (text : List Char) : Except (Problem α) (List Char) :=
  match skipBlanks text with
  | [] => .error .cut
  | '"' :: rest => do colon (← skipText rest)
  | _ => .error .malformed

def skipLeaf (first : Char) (rest : List Char) : Except (Problem α) (List Char) :=
  if first = 'n' then finishWord ['u', 'l', 'l'] rest
  else if first = 't' then finishWord ['r', 'u', 'e'] rest
  else if first = 'f' then finishWord ['a', 'l', 's', 'e'] rest
  else if first = '"' then skipText rest
  else if first = '-' || (digit? first).isSome then skipNumber (first :: rest)
  else .error .malformed

def skipFrom : Nat → Due → List Enclosure → List Char → Except (Problem α) (List Char)
  | 0, _, _, _ => .error .malformed
  | _ + 1, .next, [], text => .ok text
  | fuel + 1, due, within, text =>
    match skipBlanks text, due, within with
    | [], _, _ => .error .cut
    | c :: rest, .value, _ =>
      if c = '[' then skipFrom fuel .first (.sequence :: within) rest
      else if c = '{' then skipFrom fuel .first (.mapping :: within) rest
      else do skipFrom fuel .next within (← skipLeaf c rest)
    | c :: rest, .first, inner :: outer =>
      if c = inner.mark then skipFrom fuel .next outer rest
      else skipFrom fuel .member within (c :: rest)
    | c :: rest, .next, inner :: outer =>
      if c = ',' then skipFrom fuel .member within rest
      else if c = inner.mark then skipFrom fuel .next outer rest
      else .error .malformed
    | c :: rest, .member, .mapping :: _ => do skipFrom fuel .value within (← skipName (c :: rest))
    | c :: rest, _, _ => skipFrom fuel .value within (c :: rest)

/-- Passes over one value.  Every character starts at most three steps of the walk. -/
def skipValue (text : List Char) : Except (Problem α) (List Char) :=
  skipFrom (3 * text.length + 3) .value [] text

end Sightline.Json
