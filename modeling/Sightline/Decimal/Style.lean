import Sightline.Decimal.Shortest

/-!
# How the shortest decimal is laid out

A style says where positional notation ends, whether a whole number keeps a point, and how an
exponent is marked.
-/

set_option autoImplicit false

namespace Sightline.Decimal

structure Style where
  /-- A whole number in positional notation ends with `.0`. -/
  keepsPoint : Bool
  /-- The powers of ten of the leading digit that are written positionally; all if `none`. -/
  positional : Option (Int × Int)
  exponentSign : String
  tie : Tie
deriving Repr

def Style.plain : Style := ⟨false, none, "", .up⟩

/-- Positional from 0.0001 to below 10^16, always with a point or an exponent. -/
def Style.full : Style := ⟨true, some (-4, 15), "", .up⟩

/-- Positional from 0.00001 to below 10^16, always with a point or an exponent that has a sign. -/
def Style.signed : Style := ⟨true, some (-5, 15), "+", .toEven⟩

def digitsOf (n : Nat) : List Char := Nat.toDigits 10 n

namespace Style

def positionalText (style : Style) (digits : List Char) (exponent : Int) : String :=
  if 0 ≤ exponent then
    String.ofList (digits ++ List.replicate exponent.toNat '0') ++
      (if style.keepsPoint then ".0" else "")
  else
    let places := (-exponent).toNat
    if places < digits.length then
      let whole := digits.length - places
      String.ofList (digits.take whole ++ '.' :: digits.drop whole)
    else String.ofList ('0' :: '.' :: List.replicate (places - digits.length) '0' ++ digits)

def exponentText (style : Style) (digits : List Char) (leading : Int) : String :=
  let fraction := match digits.drop 1 with
    | [] => ""
    | rest => "." ++ String.ofList rest
  let sign := if leading < 0 then "" else style.exponentSign
  String.ofList (digits.take 1) ++ fraction ++ "e" ++ sign ++ toString leading

def magnitude (style : Style) (d : Scaled) : String :=
  let digits := digitsOf d.digits
  let leading := d.exponent + digits.length - 1
  match style.positional with
  | none => style.positionalText digits d.exponent
  | some (low, high) =>
    if low ≤ leading && leading ≤ high then style.positionalText digits d.exponent
    else style.exponentText digits leading

def write (style : Style) (x : Float) : String :=
  match Reading.ofFloat x with
  | .notANumber => "NaN"
  | .infinite negative => if negative then "-inf" else "inf"
  | .finite negative significand exponent atBinade =>
    let sign := if negative then "-" else ""
    if significand = 0 then sign ++ (if style.keepsPoint then "0.0" else "0")
    else sign ++ style.magnitude (shortest style.tie significand exponent atBinade)

end Style

end Sightline.Decimal
