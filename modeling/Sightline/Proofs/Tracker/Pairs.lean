import Sightline.Proofs.Scalar.Mirror
import Sightline.Proofs.Tracker.Convergence

/-!
# Which pair merges

Whether two targets overlap does not depend on which of them is asked.  Of the index pairs that overlap
the search finds the least, row by row, and of a pair and its mirror image the one that names the older
target first.  So a merge takes the newer target out and moves the older one, in its place.
-/

set_option autoImplicit false

namespace Sightline

variable {α : Type} [Scalar α]

theorem exists_of_findSome?_zipIdx {β γ : Type} {list : List β} {f : β × Nat → Option γ} {found : γ}
    (first : list.zipIdx.findSome? f = some found) :
    ∃ (item : β) (index : Nat), list[index]? = some item ∧ f (item, index) = some found ∧
      ∀ (other : β) (k : Nat), k < index → list[k]? = some other → f (other, k) = none := by
  obtain ⟨before, ⟨item, index⟩, after, split, here, none⟩ := List.findSome?_eq_some_iff.1 first
  have place : list.zipIdx[before.length]? = some (item, index) := by
    rw [split, List.getElem?_append_right (Nat.le_refl _), Nat.sub_self, List.getElem?_cons_zero]
  rw [List.getElem?_zipIdx, Option.map_eq_some_iff] at place
  obtain ⟨_, there, same⟩ := place
  cases same
  refine ⟨item, _, by rwa [Nat.zero_add], here, fun other k below at? => none _ ?_⟩
  have earlier : before[k]? = some (other, k) := by
    rw [← List.getElem?_append_left (by omega), ← split, List.getElem?_zipIdx, at?]
    simp
  exact List.mem_of_getElem? earlier

theorem exists_of_find?_zipIdx {β : Type} {list : List β} {p : β × Nat → Bool} {found : β × Nat}
    (first : list.zipIdx.find? p = some found) :
    list[found.2]? = some found.1 ∧ p found = true ∧
      ∀ (other : β) (k : Nat), k < found.2 → list[k]? = some other → p (other, k) = false := by
  rw [← List.findSome?_guard] at first
  obtain ⟨item, index, there, here, none⟩ := exists_of_findSome?_zipIdx first
  obtain ⟨rfl, holds⟩ := Option.guard_eq_some_iff.1 here
  refine ⟨there, holds, fun other k below at? => ?_⟩
  simpa using none other k below at?

/-! ## Overlapping the other way round -/

section Symmetry

variable [SymmetricScalar α]

theorem Point.norm_sub_comm (p q : Point α) : (p - q).norm = (q - p).norm := by
  have across := SymmetricScalar.sub_mul_self_comm p.x q.x
  have up := SymmetricScalar.sub_mul_self_comm p.y q.y
  exact congrArg Scalar.sqrt (congrArg₂ (· + ·) across up)

theorem Target.overlaps_comm (one other : Target α) (slack : α) :
    one.overlaps other slack = other.overlaps one slack := by
  unfold overlaps Disc.overlaps
  rw [Point.norm_sub_comm, SymmetricScalar.add_comm one.disc.radius]

end Symmetry

namespace Tracker

variable {t after : Tracker α} {plan : TrackerPlan α} {slack : α} {i j : Nat}

/-! ## The first pair -/

/-- Two different targets overlap, given by their places. -/
def Overlapping (t : Tracker α) (slack : α) (i j : Nat) : Prop :=
  i ≠ j ∧ ∃ first second, t.targets[i]? = some first ∧ t.targets[j]? = some second ∧
    first.overlaps second.toTarget slack = true

/-- No overlapping pair comes before this one, read row by row. -/
structure FirstPair (t : Tracker α) (slack : α) (i j : Nat) : Prop where
  overlapping : t.Overlapping slack i j
  least : ∀ k l, t.Overlapping slack k l → i < k ∨ i = k ∧ j ≤ l

theorem Overlapping.symm [SymmetricScalar α] (overlapping : t.Overlapping slack i j) :
    t.Overlapping slack j i := by
  obtain ⟨distinct, first, second, firstAt, secondAt, overlap⟩ := overlapping
  exact ⟨distinct.symm, second, first, secondAt, firstAt, by rw [Target.overlaps_comm, overlap]⟩

theorem apart_iff : t.Apart slack ↔ ∀ i j, ¬ t.Overlapping slack i j := by
  constructor
  · rintro apart i j ⟨distinct, first, second, firstAt, secondAt, overlap⟩
    rw [apart i j first second distinct firstAt secondAt] at overlap
    cases overlap
  · intro none i j first second distinct firstAt secondAt
    rw [← Bool.not_eq_true]
    exact fun overlap => none i j ⟨distinct, first, second, firstAt, secondAt, overlap⟩

theorem firstPair_of_overlappingPair? {first second : Tracked α × Nat}
    (found : overlappingPair? t.targets slack = some (first, second)) :
    t.FirstPair slack first.2 second.2 := by
  obtain ⟨firstAt, secondAt, distinct, overlap⟩ := overlappingPair?_eq_some found
  refine ⟨⟨distinct, first.1, second.1, firstAt, secondAt, overlap⟩, ?_⟩
  obtain ⟨item, row, itemAt, inRow, rowsBefore⟩ := exists_of_findSome?_zipIdx found
  obtain ⟨other, foundInRow, same⟩ := Option.map_eq_some_iff.1 inRow
  cases same
  obtain ⟨_, _, before⟩ := exists_of_find?_zipIdx foundInRow
  rintro k l ⟨apart, one, two, oneAt, twoAt, meets⟩
  rcases Nat.lt_trichotomy row k with after | rfl | earlier
  · exact .inl after
  · refine .inr ⟨rfl, Nat.le_of_not_lt fun sooner => ?_⟩
    have passed := before two l sooner twoAt
    rw [itemAt] at oneAt
    cases oneAt
    simp [apart, meets] at passed
  · have passed := rowsBefore one k earlier oneAt
    rw [Option.map_eq_none_iff, List.find?_eq_none] at passed
    exact absurd (by simp [apart, meets]) (passed (two, l) (List.mk_mem_zipIdx_iff_getElem?.2 twoAt))

/-- The mirror image of a pair overlaps as well, so the first of both names the older target first. -/
theorem FirstPair.lt [SymmetricScalar α] (pair : t.FirstPair slack i j) : i < j := by
  have distinct := pair.overlapping.1
  rcases pair.least j i pair.overlapping.symm with less | ⟨same, _⟩
  · exact less
  · exact absurd same distinct

theorem exists_merge? (overlapping : ∃ k l, t.Overlapping plan.mergeSlack k l) :
    ∃ merge after, t.merge? plan = some (merge, after) := by
  cases tried : t.merge? plan with
  | none =>
      obtain ⟨k, l, overlaps⟩ := overlapping
      exact absurd overlaps (apart_iff.1 (merge?_eq_none.1 tried) k l)
  | some merged => exact ⟨merged.1, merged.2, rfl⟩

/-! ## The merge -/

/-- An older and a newer target are joined: the older one moves to the middle between them, the newer one
is gone, and all others are as they were and where they were in the order. -/
structure Joins (t after : Tracker α) (older newer : Tracked α)
    (before between behind : List (Tracked α)) : Prop where
  was : t.targets = before ++ older :: (between ++ newer :: behind)
  left : after.targets =
    before ++ { older with position := (older.position + newer.position).scale 0.5 } ::
      (between ++ behind)
  issuer : after.issuer = t.issuer

theorem exists_split {β : Type} {list : List β} {index : Nat} {item : β}
    (at? : list[index]? = some item) :
    ∃ before behind, list = before ++ item :: behind ∧ before.length = index := by
  obtain ⟨below, rfl⟩ := List.getElem?_eq_some_iff.1 at?
  refine ⟨list.take index, list.drop (index + 1), ?_, List.length_take_of_le below.le⟩
  rw [List.getElem_cons_drop, List.take_append_drop]

theorem modify_append_length {β : Type} (before behind : List β) (item : β) (change : β → β) :
    (before ++ item :: behind).modify before.length change = before ++ change item :: behind := by
  induction before with
  | nil => rfl
  | cons head rest ih => exact congrArg (head :: ·) ih

theorem eraseIdx_append_length {β : Type} (before behind : List β) (item : β) :
    (before ++ item :: behind).eraseIdx before.length = before ++ behind := by
  rw [List.eraseIdx_append_of_length_le (Nat.le_refl _), Nat.sub_self, List.eraseIdx_zero, List.tail_cons]

theorem joins_of_merge? [SymmetricScalar α] {merge : Merge α}
    (merged : t.merge? plan = some (merge, after)) :
    ∃ (older newer : Tracked α) (before between behind : List (Tracked α)),
      t.Joins after older newer before between behind ∧
        t.FirstPair plan.mergeSlack before.length (before.length + 1 + between.length) ∧
        older.overlaps newer.toTarget plan.mergeSlack = true ∧
        merge = ⟨older.id, newer.id, (older.position + newer.position).scale 0.5⟩ := by
  obtain ⟨⟨older, i⟩, ⟨newer, j⟩, found, rfl, rfl⟩ := merge?_eq_some merged
  obtain ⟨olderAt, newerAt, _, overlap⟩ := overlappingPair?_eq_some found
  have pair := firstPair_of_overlappingPair? found
  have inOrder := pair.lt
  dsimp only at olderAt newerAt pair inOrder
  obtain ⟨before, rest, split, rfl⟩ := exists_split olderAt
  have newerIn : rest[j - before.length - 1]? = some newer := by
    rw [split, List.getElem?_append_right (by omega), List.getElem?_cons, if_neg (by omega)] at newerAt
    exact newerAt
  obtain ⟨between, behind, rfl, length⟩ := exists_split newerIn
  have place : j = before.length + 1 + between.length := by omega
  subst place
  refine ⟨older, newer, before, between, behind, ⟨split, ?_, rfl⟩, pair, overlap, rfl⟩
  have behindOlder : before.length + 1 + between.length - before.length = between.length + 1 := by omega
  dsimp only
  rw [split, modify_append_length, List.eraseIdx_append_of_length_le (by omega), behindOlder,
    List.eraseIdx_cons_succ, eraseIdx_append_length]
  rfl

theorem Joins.serial_lt {older newer : Tracked α} {before between behind : List (Tracked α)}
    (joins : t.Joins after older newer before between behind)
    (inOrder : t.ids.Pairwise fun first second => first.serial < second.serial) :
    older.id.serial < newer.id.serial := by
  have targets := List.pairwise_map.1 inOrder
  rw [joins.was, List.pairwise_append] at targets
  exact (List.pairwise_cons.1 targets.2.1).1 newer (by simp)

/-- Overlapping is mutual; and where targets overlap, a merge is of the first pair, whose older target
stays in its place with all but its position, and whose newer one goes. -/
theorem merge_joins_first_pair [SymmetricScalar α] :
    (∀ (one other : Target α) (slack : α), one.overlaps other slack = other.overlaps one slack) ∧
      (∀ (t : Tracker α) (slack : α) (i j : Nat), t.FirstPair slack i j → i < j) ∧
      ∀ (plan : TrackerPlan α) (t : Tracker α), (∃ k l, t.Overlapping plan.mergeSlack k l) →
        ∃ (older newer : Tracked α) (before between behind : List (Tracked α)) (after : Tracker α),
          t.merge? plan =
              some (⟨older.id, newer.id, (older.position + newer.position).scale 0.5⟩, after) ∧
            t.Joins after older newer before between behind ∧
            t.FirstPair plan.mergeSlack before.length (before.length + 1 + between.length) ∧
            ((t.ids.Pairwise fun first second => first.serial < second.serial) →
              older.id.serial < newer.id.serial) := by
  refine ⟨Target.overlaps_comm, fun _ _ _ _ pair => pair.lt, fun plan t overlapping => ?_⟩
  obtain ⟨merge, after, merged⟩ := exists_merge? overlapping
  obtain ⟨older, newer, before, between, behind, joins, pair, _, rfl⟩ := joins_of_merge? merged
  exact ⟨older, newer, before, between, behind, after, merged, joins, pair, joins.serial_lt⟩

/-- Of four targets in creation order the second and the third overlap the last, but not each other. -/
def chained : Tracker Float where
  targets := [⟨9, 9⟩, ⟨0, 0⟩, ⟨1, 0⟩, ⟨0.5, 0⟩].zipIdx.map fun (position, k) =>
    ⟨⟨position, 0.6, .ofMillis 5000, .zero⟩, ⟨UInt64.ofNat (k + 1)⟩⟩
  issuer := ⟨4⟩

def chainedPlan : TrackerPlan Float := ⟨0.6, .ofMillis 5000, 0.2, 0.5, 1.0, []⟩

theorem chained_joins_second_and_last :
    chained.Overlapping chainedPlan.mergeSlack 1 3 ∧
      ∃ (older newer : Tracked Float) (before between behind : List (Tracked Float))
          (after : Tracker Float),
        chained.Joins after older newer before between behind ∧
          chained.FirstPair chainedPlan.mergeSlack before.length (before.length + 1 + between.length) ∧
          older.id.serial < newer.id.serial ∧ after.ids = [⟨1⟩, ⟨2⟩, ⟨3⟩] := by
  have overlapping : chained.Overlapping chainedPlan.mergeSlack 1 3 :=
    ⟨by decide, _, _, rfl, rfl, by decide +kernel⟩
  obtain ⟨older, newer, before, between, behind, after, merged, joins, pair, inOrder⟩ :=
    merge_joins_first_pair.2.2 chainedPlan chained ⟨1, 3, overlapping⟩
  have left : (chained.merge? chainedPlan).map (fun merged => merged.2.ids) = some [⟨1⟩, ⟨2⟩, ⟨3⟩] := by
    decide +kernel
  rw [merged] at left
  exact ⟨overlapping, older, newer, before, between, behind, after, joins, pair,
    inOrder (by decide +kernel), Option.some.inj left⟩

end Tracker

end Sightline
