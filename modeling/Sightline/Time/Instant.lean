import Sightline.Abort

/-!
# Durations and instants

Both are counted in nanoseconds.  Instants are counted from the moment the clock was set up; the
clock shows whole seconds up to 2^63 - 1, and an instant later than that aborts.
-/

set_option autoImplicit false

namespace Sightline

structure Duration where
  nanos : Nat
deriving Repr, DecidableEq

structure Instant where
  nanos : Nat
deriving Repr, DecidableEq

namespace Duration

def perSecond : Nat := 1000000000

def perMilli : Nat := 1000000

def ofParts (seconds nanos : Nat) : Duration := ⟨seconds * perSecond + nanos⟩

def ofMillis (millis : Nat) : Duration := ⟨millis * perMilli⟩

def seconds (d : Duration) : Nat := d.nanos / perSecond

def subsecond (d : Duration) : Nat := d.nanos % perSecond

end Duration

namespace Instant

def zero : Instant := ⟨0⟩

def secondsEnd : Nat := 9223372036854775808

def after (t : Instant) (d : Duration) : Except Abort Instant :=
  let later := t.nanos + d.nanos
  if later / Duration.perSecond < secondsEnd then .ok ⟨later⟩ else .error .clockOverflow

/-- How long ago `earlier` was, nothing if it is yet to come. -/
def since (t earlier : Instant) : Duration := ⟨t.nanos - earlier.nanos⟩

def elapsed (t : Instant) : Duration := ⟨t.nanos⟩

end Instant

end Sightline
