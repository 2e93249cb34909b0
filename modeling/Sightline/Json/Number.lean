import Sightline.Scalar
import Sightline.Json.Reader

/-!
# Numbers of a document

A whole number that fits 64 bits is kept exactly.  Any other number is read as a significand of at
most 64 bits, further digits being dropped, and a power of ten, which is applied in one operation
as far as it is not above 10^308.
-/

set_option autoImplicit false

namespace Sightline.Json

inductive Number (α : Type) where
  | natural (value : Nat)
  | negative (magnitude : Nat)
  | real (value : α)
deriving Repr

variable {α : Type}

def digit? (c : Char) : Option Nat := if '0' ≤ c ∧ c ≤ '9' then some (c.toNat - 48) else none

def digits : List Char → List Nat × List Char
  | [] => ([], [])
  | c :: text =>
    match digit? c with
    | some d => let (more, rest) := digits text; (d :: more, rest)
    | none => ([], c :: text)

def significandEnd : Nat := 18446744073709551615

/-- Takes digits into a significand as long as it fits 64 bits; also the number of digits taken. -/
def absorb (significand : Nat) : List Nat → Nat × Nat
  | [] => (significand, 0)
  | d :: more =>
    if significand * 10 + d ≤ significandEnd then
      let (full, taken) := absorb (significand * 10 + d) more
      (full, taken + 1)
    else (significand, 0)

structure Numeral where
  whole : List Nat
  fraction : Option (List Nat)
  power : Option (Bool × List Nat)
deriving Repr

/-- At least one digit.  A text that ends where one is due is cut, unless `skipped`. -/
def digitsDue (skipped : Bool) (text : List Char) : Except (Problem α) (List Nat × List Char) :=
  match digits text with
  | ([], []) => .error (if skipped then .malformed else .cut)
  | ([], _ :: _) => .error .malformed
  | found => .ok found

def wholeDigits (skipped : Bool) (text : List Char) :
    Except (Problem α) (List Nat × List Char) :=
  match digitsDue skipped text with
  | .ok (0 :: _ :: _, _) => .error .malformed
  | other => other

def fractionDigits (skipped : Bool) : List Char → Except (Problem α) (Option (List Nat) × List Char)
  | '.' :: text => do
    let (found, rest) ← digitsDue skipped text
    .ok (some found, rest)
  | text => .ok (none, text)

def powerDigits (skipped : Bool) (text : List Char) :
    Except (Problem α) (Option (Bool × List Nat) × List Char) :=
  match text with
  | c :: after =>
    if c = 'e' ∨ c = 'E' then do
      let (upwards, unsigned) := match after with
        | '+' :: rest => (true, rest)
        | '-' :: rest => (false, rest)
        | rest => (true, rest)
      let (found, rest) ← digitsDue skipped unsigned
      .ok (some (upwards, found), rest)
    else .ok (none, text)
  | [] => .ok (none, text)

def numeral (skipped : Bool) (text : List Char) : Except (Problem α) (Numeral × List Char) := do
  let (whole, rest) ← wholeDigits skipped text
  let (fraction, rest) ← fractionDigits skipped rest
  let (power, rest) ← powerDigits skipped rest
  .ok (⟨whole, fraction, power⟩, rest)

section Value

variable [Scalar α]

def powerOfTen (n : Nat) : α := OfScientific.ofScientific 1 false n

/-- Divides by `10 ^ places`, 308 places at a time; `fuel` bounds the number of divisions. -/
def shiftDown : Nat → α → Nat → α
  | 0, value, _ => value
  | fuel + 1, value, places =>
    if places ≤ 308 then value / powerOfTen places
    else if Scalar.same value 0 then value
    else shiftDown fuel (value / powerOfTen 308) (places - 308)

def scaled (significand : Nat) (exponent : Int) : Except (Problem α) α :=
  let value : α := Scalar.ofNat significand
  if 0 ≤ exponent then
    if exponent ≤ 308 then
      let result := value * powerOfTen exponent.toNat
      if Scalar.isFinite result then .ok result else .error .malformed
    else if significand = 0 then .ok value
    else .error .malformed
  else .ok (shiftDown ((-exponent).toNat / 308 + 1) value (-exponent).toNat)

/-- The greatest exponent that is counted; beyond it only zero and vanishing numbers have a value. -/
def powerEnd : Nat := 2147483647

def realValue (n : Numeral) : Except (Problem α) α :=
  let (inWhole, takenWhole) := absorb 0 n.whole
  let (significand, takenFraction) := absorb inWhole (n.fraction.getD [])
  let places : Int := (n.whole.length - takenWhole : Nat) - (takenFraction : Int)
  match n.power with
  | none => scaled significand places
  | some (upwards, powerDigits) =>
    let power := powerDigits.foldl (fun sum d => sum * 10 + d) 0
    if powerEnd < power then
      if upwards && significand ≠ 0 then .error .malformed else .ok 0
    else scaled significand (if upwards then places + power else places - power)

def Numeral.value (n : Numeral) (isNegative : Bool) : Except (Problem α) (Number α) :=
  let (magnitude, taken) := absorb 0 n.whole
  if n.fraction.isNone && n.power.isNone && taken = n.whole.length then
    if !isNegative then .ok (.natural magnitude)
    else if 0 < magnitude && magnitude ≤ 9223372036854775808 then .ok (.negative magnitude)
    else .ok (.real (-(Scalar.ofNat magnitude)))
  else do
    let value ← realValue n
    .ok (.real (if isNegative then -value else value))

def number : Reader α (Number α) := fun text => do
  let (isNegative, unsigned) := match text with
    | '-' :: rest => (true, rest)
    | rest => (false, rest)
  let (parts, rest) ← numeral false unsigned
  .ok (← parts.value isNegative, rest)

/-- What a document says of a scalar: the number, or nothing if it is not finite. -/
def statable? (x : α) : Option α := if Scalar.isFinite x then some x else none

def Number.toScalar : Number α → α
  | .natural n => Scalar.ofNat n
  | .negative n => -(Scalar.ofNat n)
  | .real x => x

end Value

def skipNumber (text : List Char) : Except (Problem α) (List Char) := do
  let unsigned := match text with
    | '-' :: rest => rest
    | rest => rest
  let (_, rest) ← numeral true unsigned
  .ok rest

end Sightline.Json
