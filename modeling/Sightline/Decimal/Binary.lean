/-!
# Exact values of binary64 numbers

The bits of a number are read as a sign and a natural significand times a power of two.  The
written forms of a number are computed from this exact value alone.
-/

set_option autoImplicit false

namespace Sightline.Decimal

inductive Reading where
  | notANumber
  | infinite (negative : Bool)
  /-- The value `significand * 2 ^ exponent`; `atBinade` marks the least significand of a binade,
  whose neighbour below is half as far away as the one above. -/
  | finite (negative : Bool) (significand : Nat) (exponent : Int) (atBinade : Bool)
deriving Repr

def significandSpan : Nat := 4503599627370496

def Reading.ofFloat (x : Float) : Reading :=
  let bits := x.toBits.toNat
  let negative : Bool := bits >>> 63 == 1
  let field : Nat := (bits >>> 52) % 2048
  let fraction : Nat := bits % significandSpan
  if field = 2047 then
    if fraction = 0 then .infinite negative else .notANumber
  else if field = 0 then .finite negative fraction (-1074) false
  else .finite negative (significandSpan + fraction) ((field : Int) - 1075) (fraction = 0 && field ≠ 1)

end Sightline.Decimal
