import Sightline.Time.Instant

/-!
# How a duration is written

The largest of the units second, millisecond, microsecond and nanosecond that is not above the
duration is used; the rest follows as a decimal fraction without trailing zeros.
-/

set_option autoImplicit false

namespace Sightline.Duration

/-- The digits of `n` in a field of `width` places, with the zeros at the end left out. -/
def fractionDigits (width n : Nat) : List Char :=
  let digits := Nat.toDigits 10 n
  let padded := List.replicate (width - digits.length) '0' ++ digits
  (padded.reverse.dropWhile (· == '0')).reverse

/-- A count of units with a remainder that is counted in `10 ^ width` parts of the unit. -/
def amount (whole width rest : Nat) (unit : String) : String :=
  match fractionDigits width rest with
  | [] => toString whole ++ unit
  | digits => toString whole ++ "." ++ String.ofList digits ++ unit

def spelled (d : Duration) : String :=
  let n := d.nanos
  if perSecond ≤ n then amount d.seconds 9 d.subsecond "s"
  else if perMilli ≤ n then amount (n / perMilli) 6 (n % perMilli) "ms"
  else if 1000 ≤ n then amount (n / 1000) 3 (n % 1000) "µs"
  else amount n 0 0 "ns"

end Sightline.Duration
