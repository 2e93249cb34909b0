import Mathlib.Data.List.Induction
import Sightline.Proofs.Scalar.Lawful

/-!
# The first of the least

A search passes over a list, rates some of its items, and takes the rating of one only if it measures
less than what it holds.  So it ends with the least, and of equals with the one that comes first; what it
does not rate has no say in it.
-/

set_option autoImplicit false

namespace Sightline

theorem getElem?_concat_eq_some {β : Type} {list : List β} {last item : β} {k : Nat} :
    (list ++ [last])[k]? = some item ↔ list[k]? = some item ∨ k = list.length ∧ last = item := by
  rw [List.getElem?_append]
  split
  · have inside : k ≠ list.length := by omega
    simp [inside]
  · rename_i beyond
    have atEnd : k - list.length = 0 ↔ k = list.length := by omega
    rw [List.getElem?_eq_none (Nat.le_of_not_lt beyond), List.getElem?_singleton]
    simp [atEnd]

theorem getElem?_zipIdx_eq_some {β : Type} {list : List β} {entry : β × Nat} {k : Nat} :
    list.zipIdx[k]? = some entry ↔ list[k]? = some entry.1 ∧ k = entry.2 := by
  rw [List.getElem?_zipIdx, Option.map_eq_some_iff, Nat.zero_add]
  constructor
  · rintro ⟨item, there, rfl⟩
    exact ⟨there, rfl⟩
  · rintro ⟨there, same⟩
    exact ⟨entry.1, there, Prod.ext rfl same⟩

variable {α β γ : Type} [Scalar α] (rate : β → Option γ) (measure : γ → α)

/-- What is held after one more item. -/
def select (best : Option γ) (item : β) : Option γ :=
  match rate item with
  | none => best
  | some rating =>
    match best with
    | none => some rating
    | some held => if measure rating < measure held then some rating else best

/-- No rating measures less than this one, and those before it measure more. -/
structure FirstLeast (items : List β) (index : Nat) (item : β) (rating : γ) : Prop where
  there : items[index]? = some item
  rated : rate item = some rating
  least : ∀ (k : Nat) (other : β) (value : γ), items[k]? = some other → rate other = some value →
    measure rating ≤ measure value
  first : ∀ (k : Nat) (other : β) (value : γ), k < index → items[k]? = some other →
    rate other = some value → measure rating < measure value

/-- What is held after some items: the first of the least ratings, or nothing if nothing was rated. -/
def Selected (items : List β) : Option γ → Prop
  | none => ∀ item ∈ items, rate item = none
  | some rating => ∃ index item, FirstLeast rate measure items index item rating

variable {rate measure} {items : List β} {index : Nat} {item last : β} {rating value : γ}
  {best : Option γ}

namespace FirstLeast

theorem index_lt (found : FirstLeast rate measure items index item rating) : index < items.length :=
  (List.getElem?_eq_some_iff.1 found.there).1

/-- The least rating stays so if the next one does not measure less. -/
theorem keep (found : FirstLeast rate measure items index item rating)
    (notLess : ∀ value, rate last = some value → measure rating ≤ measure value) :
    FirstLeast rate measure (items ++ [last]) index item rating := by
  refine ⟨getElem?_concat_eq_some.2 (.inl found.there), found.rated, ?_, ?_⟩
  · intro k other value there rated
    rcases getElem?_concat_eq_some.1 there with before | ⟨_, rfl⟩
    · exact found.least k other value before rated
    · exact notLess value rated
  · intro k other value earlier there rated
    rcases getElem?_concat_eq_some.1 there with before | ⟨atEnd, _⟩
    · exact found.first k other value earlier before rated
    · have := found.index_lt
      omega

/-- The next rating is the least if it measures less than all before. -/
theorem take [OrderedScalar α] (rated : rate last = some value) (ordered : measure value ≤ measure value)
    (less : ∀ (k : Nat) (other : β) (rating : γ), items[k]? = some other → rate other = some rating →
      measure value < measure rating) :
    FirstLeast rate measure (items ++ [last]) items.length last value := by
  refine ⟨getElem?_concat_eq_some.2 (.inr ⟨rfl, rfl⟩), rated, ?_, ?_⟩
  · intro k other rating there ratedToo
    rcases getElem?_concat_eq_some.1 there with before | ⟨_, rfl⟩
    · exact OrderedScalar.le_of_lt (less k other rating before ratedToo)
    · rw [rated] at ratedToo
      cases ratedToo
      exact ordered
  · intro k other rating earlier there ratedToo
    rcases getElem?_concat_eq_some.1 there with before | ⟨atEnd, _⟩
    · exact less k other rating before ratedToo
    · exact absurd atEnd (Nat.ne_of_lt earlier)

end FirstLeast

theorem Selected.pass (selected : Selected rate measure items best) (unrated : rate last = none) :
    Selected rate measure (items ++ [last]) best := by
  cases best with
  | none =>
      intro item member
      rcases List.mem_append.1 member with before | atEnd
      · exact selected item before
      · rwa [List.mem_singleton.1 atEnd]
  | some rating =>
      obtain ⟨index, item, found⟩ := selected
      refine ⟨index, item, found.keep fun value rated => ?_⟩
      rw [unrated] at rated
      cases rated

variable [LawfulScalar α] [OrderedScalar α]

/-- One more item. -/
theorem Selected.next (ordered : ∀ item rating, rate item = some rating → measure rating ≤ measure rating)
    (selected : Selected rate measure items best) (last : β) :
    Selected rate measure (items ++ [last]) (select rate measure best last) := by
  unfold select
  cases rated : rate last with
  | none => exact selected.pass rated
  | some value =>
      cases best with
      | none =>
          refine ⟨_, last, .take rated (ordered last value rated) fun k other rating there ratedToo => ?_⟩
          rw [selected other (List.mem_of_getElem? there)] at ratedToo
          cases ratedToo
      | some held =>
          obtain ⟨index, item, found⟩ := selected
          dsimp only
          split
          · rename_i less
            refine ⟨_, last, .take rated (ordered last value rated) fun k other rating there ratedToo => ?_⟩
            exact LawfulScalar.lt_of_lt_of_le less (found.least k other rating there ratedToo)
          · rename_i notLess
            refine ⟨index, item, found.keep fun rating ratedToo => ?_⟩
            rw [rated] at ratedToo
            cases ratedToo
            exact OrderedScalar.le_of_not_lt (ordered last value rated) (ordered item held found.rated)
              notLess

/-- All items. -/
theorem selected_foldl (ordered : ∀ item rating, rate item = some rating → measure rating ≤ measure rating)
    (items : List β) : Selected rate measure items (items.foldl (select rate measure) none) := by
  induction items using List.reverseRecOn with
  | nil => exact List.forall_mem_nil _
  | append_singleton items last ih =>
      rw [List.foldl_append]
      exact ih.next ordered last

end Sightline
