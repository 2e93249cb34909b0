import Sightline.Proofs.Tracker.Accounting

/-!
# Merging comes to rest

The survivor of a merge moves, and may then overlap targets that it was clear of before, so the
number of overlaps need not go down.  What goes down with every merge is the number of targets; and
the search for a pair passes over none, so it ends only where all targets stand apart.
-/

set_option autoImplicit false

namespace Sightline

variable {α : Type} [Scalar α]

namespace Tracker

variable {t after : Tracker α} {plan : TrackerPlan α}

/-- No two targets overlap by more than `slack`. -/
def Apart (t : Tracker α) (slack : α) : Prop :=
  ∀ (i j : Nat) (first second : Tracked α), i ≠ j → t.targets[i]? = some first →
    t.targets[j]? = some second → first.overlaps second.toTarget slack = false

theorem overlappingPair?_eq_none {slack : α} :
    overlappingPair? t.targets slack = none ↔ t.Apart slack := by
  simp only [overlappingPair?, List.findSome?_eq_none_iff, Option.map_eq_none_iff,
    List.find?_eq_none, Bool.and_eq_true, bne_iff_ne, not_and, Bool.not_eq_true]
  constructor
  · intro searched i j first second distinct firstAt secondAt
    exact searched (first, i) (List.mk_mem_zipIdx_iff_getElem?.2 firstAt) (second, j)
      (List.mk_mem_zipIdx_iff_getElem?.2 secondAt) distinct
  · intro apart first firstMember second secondMember distinct
    exact apart first.2 second.2 first.1 second.1 distinct
      (List.mem_zipIdx_iff_getElem?.1 firstMember) (List.mem_zipIdx_iff_getElem?.1 secondMember)

theorem merge?_eq_none : t.merge? plan = none ↔ t.Apart plan.mergeSlack := by
  rw [merge?, Option.map_eq_none_iff, overlappingPair?_eq_none]

/-- A merge takes one target away and leaves one at least. -/
theorem length_merge? {merge : Merge α} (merged : t.merge? plan = some (merge, after)) :
    after.targets.length + 1 = t.targets.length ∧ 0 < after.targets.length := by
  obtain ⟨first, second, found, _, rfl⟩ := merge?_eq_some merged
  obtain ⟨firstAt, secondAt, distinct, _⟩ := overlappingPair?_eq_some found
  obtain ⟨firstBelow, _⟩ := List.getElem?_eq_some_iff.1 firstAt
  obtain ⟨secondBelow, _⟩ := List.getElem?_eq_some_iff.1 secondAt
  have length : ((t.targets.modify first.2 (·.moveTo merge.position)).eraseIdx second.2).length =
      t.targets.length - 1 := by
    rw [List.length_eraseIdx_of_lt (by rwa [List.length_modify]), List.length_modify]
  dsimp only
  rw [length]
  omega

end Tracker

namespace Lookout

variable {plan : TrackerPlan α} {l : Lookout α}

theorem perform_merge_of_apart (apart : l.tracker.Apart plan.mergeSlack) :
    l.perform plan .merge = .ok (.merged none, l) := by
  rw [perform, Tracker.merge?_eq_none.2 apart]

theorem perform_merge_of_merged {merge : Merge α} {tracker : Tracker α}
    (merged : l.tracker.merge? plan = some (merge, tracker)) :
    l.perform plan .merge = .ok (.merged (some merge), { l with tracker := tracker }) := by
  rw [perform, merged]

theorem performAll_merges_of_apart (apart : l.tracker.Apart plan.mergeSlack) :
    ∀ n : Nat, l.performAll plan (List.replicate n .merge) =
      .ok (List.replicate n (.merged none), l) := by
  intro n
  induction n with
  | zero => rfl
  | succ n ih =>
      rw [List.replicate_succ, List.replicate_succ, performAll_cons_eq_ok]
      exact ⟨_, _, _, perform_merge_of_apart apart, ih, rfl⟩

/-- The number of targets bounds the merges that are still to come. -/
theorem exists_merges (plan : TrackerPlan α) :
    ∀ l : Lookout α, ∃ (merges : List (Merge α)) (settled : Lookout α),
      l.performAll plan (List.replicate merges.length .merge) =
          .ok (merges.map fun merge => .merged (some merge), settled) ∧
        merges.length ≤ l.tracker.targets.length - 1 ∧
        settled.tracker.Apart plan.mergeSlack := by
  intro l
  induction count : l.tracker.targets.length generalizing l with
  | zero =>
      refine ⟨[], l, rfl, Nat.zero_le _, ?_⟩
      intro i j first second _ firstAt _
      rw [List.eq_nil_of_length_eq_zero count] at firstAt
      cases firstAt
  | succ count ih =>
      cases tried : l.tracker.merge? plan with
      | none => exact ⟨[], l, rfl, Nat.zero_le _, Tracker.merge?_eq_none.1 tried⟩
      | some merged =>
          obtain ⟨merge, tracker⟩ := merged
          obtain ⟨shorter, left⟩ := Tracker.length_merge? tried
          obtain ⟨merges, settled, done, few, apart⟩ :=
            ih { l with tracker := tracker } (by dsimp only; omega)
          refine ⟨merge :: merges, settled, ?_, ?_, apart⟩
          · rw [List.length_cons, List.replicate_succ, performAll_cons_eq_ok]
            exact ⟨_, _, _, perform_merge_of_merged tried, done, rfl⟩
          · rw [List.length_cons]
            omega

/-- Merging alone, a tracker merges at most once less than it has targets, and from then on finds
nothing to merge; it finds nothing exactly where no two targets overlap. -/
theorem merging_comes_to_rest (plan : TrackerPlan α) (l : Lookout α) :
    (∃ (merges : List (Merge α)) (settled : Lookout α),
      merges.length ≤ l.tracker.targets.length - 1 ∧
        l.performAll plan (List.replicate merges.length .merge) =
          .ok (merges.map fun merge => .merged (some merge), settled) ∧
        settled.tracker.Apart plan.mergeSlack ∧
        ∀ n : Nat, settled.performAll plan (List.replicate n .merge) =
          .ok (List.replicate n (.merged none), settled)) ∧
      ∀ t : Tracker α, t.merge? plan = none ↔ t.Apart plan.mergeSlack := by
  refine ⟨?_, fun t => Tracker.merge?_eq_none⟩
  obtain ⟨merges, settled, done, few, apart⟩ := exists_merges plan l
  exact ⟨merges, settled, few, done, apart, performAll_merges_of_apart apart⟩

end Lookout

end Sightline
