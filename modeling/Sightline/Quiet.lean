import Sightline.Directory
import Sightline.Time.Instant

/-!
# Quiet times

A name is reported at most once in an interval.  Names that were last reported an interval ago or
longer would be reported again anyway, and are forgotten with the next report.
-/

set_option autoImplicit false

namespace Sightline

structure Quiet where
  reported : Directory Instant

namespace Quiet

def none : Quiet := ⟨.empty⟩

/-- The name has not been reported within the interval. -/
def isDue (q : Quiet) (interval : Duration) (now : Instant) (name : String) : Bool :=
  match q.reported.get? name with
  | Option.none => true
  | some last => decide (interval.nanos ≤ (now.since last).nanos)

def report (q : Quiet) (interval : Duration) (now : Instant) (name : String) : Bool × Quiet :=
  if q.isDue interval now name then
    let recent := q.reported.filter fun last => decide ((now.since last).nanos < interval.nanos)
    (true, ⟨recent.insert name now⟩)
  else (false, q)

end Quiet

end Sightline
