import Sightline.Proofs.Engine.Factoring
import Sightline.Proofs.Engine.Movement
import Sightline.Proofs.Engine.Sites
import Sightline.Proofs.Evidence.Cells
import Sightline.Proofs.Evidence.Room
import Sightline.Proofs.Tracker.Places

/-!
# Finite coordinates over whole runs

Rays and candidates are let in only if they are finite, but the places of targets are computed from
them, and nothing looks at the results.  The middle between two targets overflows if the targets are
far out, and a target that goes much farther than its aim overflows anywhere.  Where neither is so, all
places stay finite; and evidence stays in the order everywhere.
-/

set_option autoImplicit false

namespace Sightline

open Binary64

variable {k : ℤ}

/-! ## Centres -/

structure Bounds.Within (k : ℤ) (b : Bounds Float) : Prop where
  minX : Binary64.Within k b.minX
  minY : Binary64.Within k b.minY
  maxX : Binary64.Within k b.maxX
  maxY : Binary64.Within k b.maxY

instance (k : ℤ) (b : Bounds Float) : Decidable (b.Within k) :=
  decidable_of_iff (Binary64.Within k b.minX ∧ Binary64.Within k b.minY ∧
      Binary64.Within k b.maxX ∧ Binary64.Within k b.maxY)
    ⟨fun ⟨minX, minY, maxX, maxY⟩ => ⟨minX, minY, maxX, maxY⟩,
      fun within => ⟨within.minX, within.minY, within.maxX, within.maxY⟩⟩

theorem Tiling.within_centerOf {t : Tiling Float} (countable : t.Countable)
    (bounds : t.bounds.Within k) {cell : Cell} (inside : Raster.Holds t.rows t.columns cell)
    (least : -1022 ≤ k) (small : k < 1017) : (t.centerOf cell).Within (k + 7) := by
  obtain ⟨across, up⟩ := t.bounds_open
  exact ⟨within_center bounds.minX bounds.maxX across inside.2 countable.1 least small,
    within_center bounds.minY bounds.maxY up inside.1 countable.2 least small⟩

def Snapshot.Within (k : ℤ) (snapshot : Snapshot Float) : Prop :=
  ∀ view ∈ snapshot, view.place.Within k

/-! ## Runs -/

/-- Nothing takes a target farther out than to 2 to the power `k`: no ray ends beyond, the centres of
all cells are within, and targets go no farther than their aims. -/
structure Site.Contains (k : ℤ) (site : Site Float) (commands : List (Command Float)) : Prop where
  least : -1015 ≤ k
  small : k < 1023
  bounds : site.evidencePlan.tiling.bounds.Within (k - 7)
  share : Point.Share site.trackerPlan.sensitivity
  rays : ∀ command ∈ commands, ∀ ray, command.Brings site ray → ray.Within k

theorem Site.Contains.confines {site : Site Float} {commands : List (Command Float)}
    (countable : site.evidencePlan.tiling.Countable) (contains : site.Contains k commands) :
    site.Confines (Point.Within k) := by
  refine ⟨?_, ?_⟩
  · intro cell inside
    have center := Tiling.within_centerOf countable contains.bounds inside
      (by linarith [contains.least]) (by linarith [contains.small])
    rw [sub_add_cancel] at center
    exact center
  · intro p q one other
    exact one.middle other (by linarith [contains.least]) contains.small

namespace Engine

variable {site : Site Float} {e first : Engine site} {commands : List (Command Float)}
  {run : Step site (List (Reply site))}

theorem within_performAll (countable : site.evidencePlan.tiling.Countable)
    (contains : site.Contains k commands) (all : e.watch.tracker.Within k)
    (done : e.performAll commands = .ok run) :
    Snapshot.Within k run.engine.targets ∧
      ∀ snapshot ∈ run.published, Snapshot.Within k snapshot := by
  refine all_performAll (contains.confines countable) ?_ all done
  intro command member ray brings
  exact (contains.rays command member ray brings).leadsWithin contains.share
    (by linarith [contains.least]) contains.small

theorem cells_nonneg {settings : Settings Float} {installation : Installation Float}
    (follows : site.Follows settings installation) (done : (start site).performAll commands = .ok run) :
    run.engine.evidence.AllCells (0 ≤ ·) := by
  have increment : Scalar.isPositive settings.increment = true :=
    follows.sound.positive (.increment, settings.increment) (by simp [Settings.positives])
  obtain ⟨positive, atMost⟩ := Bool.and_eq_true_iff.1 follows.sound.retention
  rw [← follows.increment] at increment
  rw [← follows.retention] at positive atMost
  exact Evidence.cells_nonneg increment (of_decide_eq_true positive) (of_decide_eq_true atMost)
    (performAll_gathered done)

/-- No cell of any raster is ever outside the order.  And all coordinates of live and published targets
are finite if bounds and rays are not too far out and targets go no farther than their aims. -/
theorem coordinates_stay_finite {settings : Settings Float} {installation : Installation Float}
    (made : Site.create settings installation = .ok site)
    (created : Engine.create site = .ok first) (done : first.performAll commands = .ok run) :
    (run.engine.evidence.AllCells fun value => value.isNaN = false) ∧
      ∀ k, site.Contains k commands → Snapshot.Within k run.engine.targets ∧
        ∀ snapshot ∈ run.published, Snapshot.Within k snapshot := by
  have follows := Site.follows_of_create made
  have countable := Evidence.countable_of_create (evidence_of_create created)
  have start := create_eq_ok created
  subst start
  refine ⟨(cells_nonneg follows done).imp fun _ => isNaN_of_nonneg, fun k contains => ?_⟩
  refine within_performAll countable contains (fun target live => ?_) done
  cases live

theorem claimingRun_contained : ∃ run, (start yard).performAll claimingRun = .ok run ∧
    run.engine.tally.rayClaimed = 1 ∧ yard.Contains 8 claimingRun ∧
      Snapshot.Within 8 run.engine.targets := by
  obtain ⟨run, done, claimed, _⟩ := claimingRun_outcome
  have contains : yard.Contains 8 claimingRun := by
    refine ⟨by norm_num, by norm_num, by decide +kernel, by decide +kernel, ?_⟩
    rintro command member ray ⟨camera, brings, _⟩
    simp only [claimingRun, List.mem_cons, List.not_mem_nil, or_false] at member
    rcases member with rfl | rfl | rfl | rfl <;> cases brings <;> decide +kernel
  have made : Site.create yardSettings .empty = .ok yard := rfl
  exact ⟨run, done, claimed, contains, ((coordinates_stay_finite made rfl done).2 8 contains).1⟩

/-- Two cells far out, one above the other, whose centres are a metre apart. -/
def remoteSettings : Settings Float :=
  { Settings.standard with
    bounds := ⟨1e308, 0, 1.6e308, 2⟩, columns := 1, rows := 2, mergeSlack := 0 }

/-- A target is set in each of the two cells; the second tick merges them. -/
def remoteRun : List (Command Float) :=
  [.trace "a" ⟨⟨1.3e308, 0.1⟩, ⟨1.3e308, 0.9⟩⟩, .trace "b" ⟨⟨1.3e308, 0.1⟩, ⟨1.3e308, 0.9⟩⟩, .tick,
    .trace "a" ⟨⟨1.3e308, 1.1⟩, ⟨1.3e308, 1.9⟩⟩, .trace "b" ⟨⟨1.3e308, 1.1⟩, ⟨1.3e308, 1.9⟩⟩, .tick]

theorem remoteRun_leaves_finite : ∃ remote first run,
    Site.create remoteSettings .empty = .ok remote ∧ Engine.create remote = .ok first ∧
      first.performAll remoteRun = .ok run ∧
      ∃ view ∈ run.engine.targets, view.place.isFinite = false := by
  have checked : yields (Site.create remoteSettings .empty) (fun remote =>
      yields (Engine.create remote) fun first => yields (first.performAll remoteRun) fun run =>
        run.engine.targets.any fun view => !view.place.isFinite) = true := by
    decide +kernel
  obtain ⟨remote, made, checked⟩ := yields_iff.1 checked
  obtain ⟨first, created, checked⟩ := yields_iff.1 checked
  obtain ⟨run, done, checked⟩ := yields_iff.1 checked
  obtain ⟨view, live, infinite⟩ := List.any_eq_true.1 checked
  exact ⟨remote, first, run, made, created, done, view, live, by simpa using infinite⟩

end Engine

end Sightline
