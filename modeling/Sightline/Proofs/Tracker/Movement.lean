import Sightline.Proofs.Plane.Crossing
import Sightline.Proofs.Tracker.Rules

/-!
# Where the rules take targets

A target is set at a candidate, goes a share of the way to the middle of a crossing, or goes to the
middle between two targets.  A kind of places that none of these leaves is kept by every rule.
-/

set_option autoImplicit false

namespace Sightline

variable {α : Type} [Scalar α]

/-- A ray leads targets by share of the way from places of a kind to places of the same kind. -/
def Segment.LeadsWithin (kind : Point α → Prop) (share : α) (ray : Segment α) : Prop :=
  ∀ (disc : Disc α) (crossing : Crossing α) (p : Point α), disc.crossing? ray = some crossing →
    kind p → kind (p + (crossing.midpoint - p).scale share)

namespace Tracker

variable {kind : Point α → Prop} {plan : TrackerPlan α} {t after : Tracker α} {now : Instant}

/-- All live targets are at places of a kind. -/
def All (kind : Point α → Prop) (t : Tracker α) : Prop := ∀ target ∈ t.targets, kind target.position

theorem mem_modify {β : Type} {change : β → β} {item : β} {list : List β} {index : Nat}
    (member : item ∈ list.modify index change) :
    item ∈ list ∨ ∃ old, list[index]? = some old ∧ item = change old := by
  obtain ⟨place, found⟩ := List.getElem?_of_mem member
  rw [List.getElem?_modify] at found
  split at found
  · rename_i same
    obtain ⟨old, there, changed⟩ := Option.map_eq_some_iff.1 found
    exact .inr ⟨old, same ▸ there, changed.symm⟩
  · rw [id_map'] at found
    exact .inl (List.mem_of_getElem? found)

theorem All.offer {ray : Segment α} {claimed : Bool} (all : t.All kind)
    (leads : ray.LeadsWithin kind plan.sensitivity)
    (offered : t.offer plan now ray = .ok (claimed, after)) : after.All kind := by
  rcases offer_eq_ok offered with ⟨_, rfl, _⟩ | ⟨claim, _, best, rfl⟩
  · exact all
  · obtain ⟨_, crossing, _, crossed, middle⟩ := claim?_eq_some best
    intro target live
    rcases mem_modify live with same | ⟨old, there, rfl⟩
    · exact all target same
    · have led := leads _ crossing old.position crossed (all old (List.mem_of_getElem? there))
      rw [← middle] at led
      exact led

theorem All.merge {merge : Merge α} (all : t.All kind)
    (middles : ∀ p q, kind p → kind q → kind ((p + q).scale 0.5))
    (merged : t.merge? plan = some (merge, after)) : after.All kind := by
  obtain ⟨first, second, found, rfl, rfl⟩ := merge?_eq_some merged
  obtain ⟨firstAt, secondAt, _⟩ := overlappingPair?_eq_some found
  have one := all first.1 (List.mem_of_getElem? firstAt)
  have other := all second.1 (List.mem_of_getElem? secondAt)
  intro target live
  rcases mem_modify (List.mem_of_mem_eraseIdx live) with same | ⟨old, _, rfl⟩
  · exact all target same
  · exact middles _ _ one other

omit [Scalar α] in
theorem All.expire {gone : List TargetId} (all : t.All kind)
    (expired : t.expire now = .ok (gone, after)) : after.All kind := by
  obtain ⟨_, rfl⟩ := expire_eq_ok expired
  exact fun target live => all target (List.mem_filter.1 live).1

theorem All.spawn {candidate : Point α} {verdict : SpawnVerdict} (all : t.All kind)
    (here : kind candidate) (spawned : t.spawn plan now candidate = .ok (verdict, after)) :
    after.All kind := by
  rcases spawn_eq_ok spawned with ⟨_, rfl⟩ | ⟨_, rfl⟩
  · exact all
  · intro target live
    rcases List.mem_append.1 live with old | new
    · exact all target old
    · rw [List.mem_singleton.1 new]
      exact here

end Tracker

end Sightline
