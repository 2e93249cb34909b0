import Sightline.Proofs.Scalar.Sizes
import Sightline.Proofs.Tracker.Movement

/-!
# Where targets are

A target goes a share of the way towards the middle of a crossing, or to the middle between two
targets.  So as long as it goes no farther than its aim, it stays within the power of two that bounds
rays, candidates and targets.
-/

set_option autoImplicit false

namespace Sightline

open Binary64

variable {k : ℤ}

/-! ## Points -/

namespace Point

structure Within (k : ℤ) (p : Point Float) : Prop where
  x : Binary64.Within k p.x
  y : Binary64.Within k p.y

instance (k : ℤ) (p : Point Float) : Decidable (p.Within k) :=
  decidable_of_iff (Binary64.Within k p.x ∧ Binary64.Within k p.y)
    ⟨fun both => ⟨both.1, both.2⟩, fun within => ⟨within.x, within.y⟩⟩

/-- A share of the way: not less than nothing, and not more than all. -/
def Share (t : Float) : Prop := 0 ≤ t ∧ t ≤ 1

instance (t : Float) : Decidable (Share t) := inferInstanceAs (Decidable (_ ∧ _))

theorem Share.finite {t : Float} (share : Share t) : Scalar.isFinite t = true :=
  StrictScalar.finite_of_unit share.1 share.2

theorem Share.bounds {t : Float} (share : Share t) : 0 ≤ value t ∧ value t ≤ 1 := by
  have one : value (Scalar.ofNat 1) = 1 := by exact_mod_cast value_ofNat (n := 1) (by norm_num)
  refine ⟨(nonneg_iff share.finite).1 share.1, ?_⟩
  rw [← one]
  exact (value_le_value share.finite rfl).1 share.2

theorem Within.towards {p q : Point Float} {t : Float} (start : p.Within k) (stop : q.Within k)
    (share : Share t) (least : -1022 ≤ k) (small : k < 1023) :
    (p + (q - p).scale t).Within k :=
  ⟨within_towards start.x stop.x share.finite share.bounds least small,
    within_towards start.y stop.y share.finite share.bounds least small⟩

end Point

structure Segment.Within (k : ℤ) (s : Segment Float) : Prop where
  start : s.start.Within k
  stop : s.stop.Within k

instance (k : ℤ) (s : Segment Float) : Decidable (s.Within k) :=
  decidable_of_iff (s.start.Within k ∧ s.stop.Within k)
    ⟨fun both => ⟨both.1, both.2⟩, fun within => ⟨within.start, within.stop⟩⟩

theorem Crossing.within_midpoint {disc : Disc Float} {ray : Segment Float}
    {crossing : Crossing Float} (within : ray.Within k)
    (crossed : disc.crossing? ray = some crossing) (least : -1022 ≤ k) (small : k < 1023) :
    crossing.midpoint.Within k := by
  obtain ⟨entryOn, exitOn, entry, exit⟩ := Disc.crossing?_eq_some crossed
  have share : ∀ {t : Float}, Disc.onSegment t = true → Point.Share t := fun on =>
    ⟨of_decide_eq_true (Bool.and_eq_true_iff.1 on).1, of_decide_eq_true (Bool.and_eq_true_iff.1 on).2⟩
  have entryWithin : crossing.entry.Within k :=
    entry ▸ within.start.towards within.stop (share entryOn) least small
  have exitWithin : crossing.exit.Within k :=
    exit ▸ within.start.towards within.stop (share exitOn) least small
  exact entryWithin.towards exitWithin (by decide +kernel) least small

/-! ## Rules -/

theorem Point.Within.middle {p q : Point Float} (one : p.Within k) (other : q.Within k)
    (least : -1022 ≤ k) (small : k < 1023) : ((p + q).scale 0.5).Within k :=
  ⟨within_middle one.x other.x (by omega) small, within_middle one.y other.y (by omega) small⟩

theorem Segment.Within.leadsWithin {ray : Segment Float} {share : Float} (within : ray.Within k)
    (part : Point.Share share) (least : -1022 ≤ k) (small : k < 1023) :
    ray.LeadsWithin (Point.Within k) share := by
  intro disc crossing p crossed here
  have aim : crossing.midpoint.Within k := Crossing.within_midpoint within crossed least small
  exact here.towards aim part least small

def Tracker.Within (k : ℤ) (t : Tracker Float) : Prop :=
  ∀ target ∈ t.targets, target.position.Within k

end Sightline
