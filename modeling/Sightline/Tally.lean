import Sightline.Scalar

/-!
# Tallies

Counters of what has happened, which wrap after 2^64, and gauges of what was last seen.
-/

set_option autoImplicit false

namespace Sightline

inductive Counter where
  | rayClaimed
  | rayGathered
  | inputRejected
  | spawnTried
  | spawnUnderCamera
  | spawnOnTarget
  | spawned
  | merged
  | expired
  | ticks
deriving Repr, DecidableEq

inductive Gauge where
  | liveTargets
  | focusValue
  | evidenceTotal
  | evidencePeak
deriving Repr, DecidableEq

structure Tally (α : Type) where
  rayClaimed : UInt64
  rayGathered : UInt64
  inputRejected : UInt64
  spawnTried : UInt64
  spawnUnderCamera : UInt64
  spawnOnTarget : UInt64
  spawned : UInt64
  merged : UInt64
  expired : UInt64
  ticks : UInt64
  liveTargets : α
  focusValue : α
  evidenceTotal : α
  evidencePeak : α
deriving Repr

namespace Tally

variable {α : Type}

def zero [Scalar α] : Tally α := ⟨0, 0, 0, 0, 0, 0, 0, 0, 0, 0, 0, 0, 0, 0⟩

def count (t : Tally α) : Counter → Tally α
  | .rayClaimed => { t with rayClaimed := t.rayClaimed + 1 }
  | .rayGathered => { t with rayGathered := t.rayGathered + 1 }
  | .inputRejected => { t with inputRejected := t.inputRejected + 1 }
  | .spawnTried => { t with spawnTried := t.spawnTried + 1 }
  | .spawnUnderCamera => { t with spawnUnderCamera := t.spawnUnderCamera + 1 }
  | .spawnOnTarget => { t with spawnOnTarget := t.spawnOnTarget + 1 }
  | .spawned => { t with spawned := t.spawned + 1 }
  | .merged => { t with merged := t.merged + 1 }
  | .expired => { t with expired := t.expired + 1 }
  | .ticks => { t with ticks := t.ticks + 1 }

def read (t : Tally α) (gauge : Gauge) (value : α) : Tally α :=
  match gauge with
  | .liveTargets => { t with liveTargets := value }
  | .focusValue => { t with focusValue := value }
  | .evidenceTotal => { t with evidenceTotal := value }
  | .evidencePeak => { t with evidencePeak := value }

end Tally

end Sightline
