import Sightline.Tally

/-!
# What a tally shows

Counting moves one counter and no gauge; gauging moves no counter.  So a tally shows of each counter
how often it was counted, in whatever order and between whatever gaugings, as long as the counter has
not wrapped.
-/

set_option autoImplicit false

namespace Sightline

namespace Tally

variable {α : Type}

def shown (t : Tally α) : Counter → UInt64
  | .rayClaimed => t.rayClaimed
  | .rayGathered => t.rayGathered
  | .inputRejected => t.inputRejected
  | .spawnTried => t.spawnTried
  | .spawnUnderCamera => t.spawnUnderCamera
  | .spawnOnTarget => t.spawnOnTarget
  | .spawned => t.spawned
  | .merged => t.merged
  | .expired => t.expired
  | .ticks => t.ticks

theorem shown_count (t : Tally α) (counted counter : Counter) :
    (t.count counted).shown counter =
      t.shown counter + if counted = counter then 1 else 0 := by
  by_cases same : counted = counter
  · subst same
    rw [if_pos rfl]
    cases counted <;> rfl
  · rw [if_neg same, UInt64.add_zero]
    cases counted <;> cases counter <;> first | rfl | exact absurd rfl same

theorem shown_read (t : Tally α) (gauge : Gauge) (value : α) (counter : Counter) :
    (t.read gauge value).shown counter = t.shown counter := by
  cases gauge <;> cases counter <;> rfl

theorem liveTargets_count (t : Tally α) (counter : Counter) :
    (t.count counter).liveTargets = t.liveTargets := by
  cases counter <;> rfl

theorem liveTargets_read (t : Tally α) {gauge : Gauge} (value : α) (other : gauge ≠ .liveTargets) :
    (t.read gauge value).liveTargets = t.liveTargets := by
  cases gauge <;> first | rfl | exact absurd rfl other

theorem count_comm (t : Tally α) (first second : Counter) :
    (t.count first).count second = (t.count second).count first := by
  cases first <;> cases second <;> rfl

def countAll (t : Tally α) (counters : List Counter) : Tally α := counters.foldl count t

theorem countAll_perm {counters others : List Counter} (permuted : counters.Perm others)
    (t : Tally α) : t.countAll counters = t.countAll others :=
  permuted.foldl_eq' (fun first _ second _ t => count_comm t first second) t

/-! ## Counts -/

/-- Between two tallies just these counters were counted. -/
def Counts (before after : Tally α) (counters : List Counter) : Prop :=
  ∀ counter, after.shown counter = before.shown counter + UInt64.ofNat (counters.count counter)

namespace Counts

variable {before middle after : Tally α} {counters later : List Counter}

theorem of_shown_eq (same : ∀ counter, after.shown counter = before.shown counter) :
    Counts before after [] := by
  intro counter
  rw [same, List.count_nil]
  exact (UInt64.add_zero _).symm

theorem refl (t : Tally α) : Counts t t [] := of_shown_eq fun _ => rfl

theorem read (t : Tally α) (gauge : Gauge) (value : α) : Counts t (t.read gauge value) [] :=
  of_shown_eq (shown_read t gauge value)

theorem count (t : Tally α) (counter : Counter) : Counts t (t.count counter) [counter] := by
  intro other
  rw [shown_count, List.count_singleton]
  by_cases same : counter = other
  · simp [same]
  · simp [same]

theorem append (first : Counts before middle counters) (second : Counts middle after later) :
    Counts before after (counters ++ later) := by
  intro counter
  rw [second, first, List.count_append, UInt64.ofNat_add, UInt64.add_assoc]

end Counts

end Tally

end Sightline
