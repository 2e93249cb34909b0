import Sightline.Decimal.Binary

/-!
# The shortest decimal that reads back

Every positive binary64 number owns an interval of reals that round to it.  Among all decimals in
that interval the one on the coarsest grid of powers of ten is chosen, and of two on that grid the
one nearer to the number; which of two that are equally near is up to the written form.
-/

set_option autoImplicit false

namespace Sightline.Decimal

structure Scaled where
  digits : Nat
  exponent : Int
deriving Repr, DecidableEq

inductive Tie where
  | up
  | toEven
deriving Repr, DecidableEq

/-- The nearer of two neighbours: `below`, at the distance `down` from the value, and its successor,
at the distance `up`. -/
def Tie.nearer (tie : Tie) (below down up : Nat) : Nat :=
  if down < up then below
  else if up < down then below + 1
  else
    match tie with
    | .up => below + 1
    | .toEven => if below % 2 = 0 then below else below + 1

/-- A positive value between two bounds, all three counted in the same unit `2 ^ exponent`; the
bounds belong to the interval when `closed`. -/
structure Interval where
  value : Nat
  lower : Nat
  upper : Nat
  exponent : Int
  closed : Bool
deriving Repr

namespace Interval

/-- The reals that round to a binary64 number, counted in quarters of its last place. -/
def ofBinary (significand : Nat) (exponent : Int) (atBinade : Bool) : Interval where
  value := 4 * significand
  lower := if atBinade then 4 * significand - 1 else 4 * significand - 2
  upper := 4 * significand + 2
  exponent := exponent - 2
  closed := significand % 2 = 0

def tenFactor (e10 e2 : Int) : Nat := Nat.pow 10 e10.toNat * Nat.pow 2 (-e2).toNat

def twoFactor (e10 e2 : Int) : Nat := Nat.pow 2 e2.toNat * Nat.pow 10 (-e10).toNat

def contains (i : Interval) (digits : Nat) (e10 : Int) : Bool :=
  let point := digits * tenFactor e10 i.exponent
  let unit := twoFactor e10 i.exponent
  if i.closed then decide (i.lower * unit ≤ point) && decide (point ≤ i.upper * unit)
  else decide (i.lower * unit < point) && decide (point < i.upper * unit)

def onGrid (i : Interval) (tie : Tie) (e10 : Int) : Option Nat :=
  let ten := tenFactor e10 i.exponent
  let exact := i.value * twoFactor e10 i.exponent
  let below := exact / ten
  match below != 0 && i.contains below e10, i.contains (below + 1) e10 with
  | true, true => some (tie.nearer below (exact - below * ten) ((below + 1) * ten - exact))
  | true, false => some below
  | false, true => some (below + 1)
  | false, false => none

def coarsest (i : Interval) (tie : Tie) : Nat → Int → Scaled
  | 0, e10 => ⟨0, e10⟩
  | fuel + 1, e10 =>
    match i.onGrid tie e10 with
    | some digits => ⟨digits, e10⟩
    | none => i.coarsest tie fuel (e10 - 1)

end Interval

/-- The shortest decimal for a positive binary64 number.  No grid above `10 ^ 309` has a point
near it, and the grid of `10 ^ (-342)` is finer than half of the last place of any. -/
def shortest (tie : Tie) (significand : Nat) (exponent : Int) (atBinade : Bool) : Scaled :=
  (Interval.ofBinary significand exponent atBinade).coarsest tie 652 309

end Sightline.Decimal
