import Sightline.Bounds
import Sightline.Time.Instant

/-!
# Settings

The numbers that steer the tracker, their standard values, and the check that they pass before a
tracker is set up.  Times are given in milliseconds.
-/

set_option autoImplicit false

namespace Sightline

structure Settings (α : Type) where
  bounds : Bounds α
  columns : Nat
  rows : Nat
  spawnPeriod : Nat
  warmup : Nat
  targetRadius : α
  targetTtl : Nat
  /-- How far a target moves towards the middle of a ray that it claims, unless the installation
  says otherwise. -/
  sensitivity : α
  increment : α
  retention : α
  maskThreshold : α
  spawnThreshold : α
  mergeSlack : α
  spawnSlack : α
  rayLength : α
  unknownCameraInterval : Nat
deriving Repr

inductive PositiveSetting where
  | targetRadius
  | increment
  | rayLength
deriving Repr, DecidableEq

inductive SettingsProblem (α : Type) where
  | emptyBounds (bounds : Bounds α)
  | noCells
  | retentionOutOfRange (retention : α)
  | notPositive (setting : PositiveSetting) (value : α)
  | noPeriod
  /-- The bounds hold nothing or reach to infinity, and cannot be cut into cells. -/
  | untileableBounds (bounds : Bounds α)
  | untileableInto (columns rows : Nat)
deriving Repr

namespace Settings

variable {α : Type} [Scalar α]

def standard : Settings α where
  bounds := .standard
  columns := 400
  rows := 400
  spawnPeriod := 250
  warmup := 1000
  targetRadius := 0.6
  targetTtl := 5000
  sensitivity := 0.2
  increment := 0.025
  retention := 0.75
  maskThreshold := 0.01
  spawnThreshold := 0.10
  mergeSlack := 0.5
  spawnSlack := 1.0
  rayLength := 10.0
  unknownCameraInterval := 60000

def positives (s : Settings α) : List (PositiveSetting × α) :=
  [(.targetRadius, s.targetRadius), (.increment, s.increment), (.rayLength, s.rayLength)]

def retentionFits (s : Settings α) : Bool := decide (0 < s.retention) && decide (s.retention ≤ 1)

def problem? (s : Settings α) : Option (SettingsProblem α) :=
  if !s.bounds.isOpen then some (.emptyBounds s.bounds)
  else if s.columns = 0 || s.rows = 0 then some .noCells
  else if !s.retentionFits then some (.retentionOutOfRange s.retention)
  else
    match s.positives.find? fun entry => !Scalar.isPositive entry.2 with
    | some (setting, value) => some (.notPositive setting value)
    | none => if s.spawnPeriod = 0 then some .noPeriod else none

def period (s : Settings α) : Duration := .ofMillis s.spawnPeriod

def warmupTime (s : Settings α) : Duration := .ofMillis s.warmup

def ttl (s : Settings α) : Duration := .ofMillis s.targetTtl

def quietTime (s : Settings α) : Duration := .ofMillis s.unknownCameraInterval

def same (s other : Settings α) : Bool :=
  s.bounds.same other.bounds && s.columns == other.columns && s.rows == other.rows &&
    s.spawnPeriod == other.spawnPeriod && s.warmup == other.warmup &&
    Scalar.same s.targetRadius other.targetRadius && s.targetTtl == other.targetTtl &&
    Scalar.same s.sensitivity other.sensitivity && Scalar.same s.increment other.increment &&
    Scalar.same s.retention other.retention &&
    Scalar.same s.maskThreshold other.maskThreshold &&
    Scalar.same s.spawnThreshold other.spawnThreshold &&
    Scalar.same s.mergeSlack other.mergeSlack && Scalar.same s.spawnSlack other.spawnSlack &&
    Scalar.same s.rayLength other.rayLength &&
    s.unknownCameraInterval == other.unknownCameraInterval

end Settings

end Sightline
