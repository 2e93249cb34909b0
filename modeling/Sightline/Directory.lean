/-!
# Directories

A directory files entries under names and lists them in the order of the names, code point by code
point.  Each name occurs once: the names of the entries ascend strictly.
-/

set_option autoImplicit false

namespace Sightline

structure Directory (β : Type) where
  entries : List (String × β)
  ascending : entries.Pairwise (fun first second => first.1 < second.1)

namespace Directory

variable {β γ : Type}

def lookup (name : String) : List (String × β) → Option β
  | [] => none
  | (key, value) :: rest => if key = name then some value else lookup name rest

/-- The list with the entry under a name replaced, or filed before the first greater name. -/
def place (name : String) (change : Option β → β) : List (String × β) → List (String × β)
  | [] => [(name, change none)]
  | (key, value) :: rest =>
    if name < key then (name, change none) :: (key, value) :: rest
    else if key < name then (key, value) :: place name change rest
    else (name, change (some value)) :: rest

theorem mem_place {name : String} {change : Option β → β} {entry : String × β} :
    ∀ {entries : List (String × β)},
      entry ∈ place name change entries → entry.1 = name ∨ entry ∈ entries := by
  intro entries
  induction entries with
  | nil => intro member; simp [place] at member; simp [member]
  | cons head rest ih =>
      intro member
      obtain ⟨key, value⟩ := head
      simp only [place] at member
      split at member
      · simp only [List.mem_cons] at member ⊢
        rcases member with rfl | member
        · exact .inl rfl
        · exact .inr member
      · split at member
        · simp only [List.mem_cons] at member ⊢
          rcases member with rfl | member
          · exact .inr (.inl rfl)
          · exact (ih member).imp_right .inr
        · simp only [List.mem_cons] at member ⊢
          rcases member with rfl | member
          · exact .inl rfl
          · exact .inr (.inr member)

theorem ascending_place {name : String} {change : Option β → β} :
    ∀ {entries : List (String × β)},
      entries.Pairwise (fun first second => first.1 < second.1) →
        (place name change entries).Pairwise (fun first second => first.1 < second.1) := by
  intro entries
  induction entries with
  | nil => intro _; simp [place]
  | cons head rest ih =>
      intro ordered
      obtain ⟨key, value⟩ := head
      obtain ⟨headBefore, restOrdered⟩ := List.pairwise_cons.1 ordered
      simp only [place]
      split
      · rename_i before
        refine List.pairwise_cons.2 ⟨?_, ordered⟩
        intro entry member
        rcases List.mem_cons.1 member with rfl | member
        · exact before
        · exact String.lt_trans before (headBefore entry member)
      · split
        · rename_i after
          refine List.pairwise_cons.2 ⟨?_, ih restOrdered⟩
          intro entry member
          rcases mem_place member with named | member
          · exact named ▸ after
          · exact headBefore entry member
        · rename_i notBefore notAfter
          have same : name = key := by
            rcases Std.lt_trichotomy name key with before | same | after
            · exact absurd before notBefore
            · exact same
            · exact absurd after notAfter
          subst same
          exact List.pairwise_cons.2 ⟨headBefore, restOrdered⟩

def empty : Directory β := ⟨[], .nil⟩

instance : Inhabited (Directory β) := ⟨empty⟩

def get? (directory : Directory β) (name : String) : Option β := lookup name directory.entries

/-- Refiles a name under a value computed from what was filed there before. -/
def alter (directory : Directory β) (name : String) (change : Option β → β) : Directory β :=
  ⟨place name change directory.entries, ascending_place directory.ascending⟩

def insert (directory : Directory β) (name : String) (value : β) : Directory β :=
  directory.alter name fun _ => value

def map (f : β → γ) (directory : Directory β) : Directory γ :=
  ⟨directory.entries.map fun entry => (entry.1, f entry.2), by
    rw [List.pairwise_map]; exact directory.ascending⟩

def filter (keep : β → Bool) (directory : Directory β) : Directory β :=
  ⟨directory.entries.filter fun entry => keep entry.2, directory.ascending.filter _⟩

def size (directory : Directory β) : Nat := directory.entries.length

def values (directory : Directory β) : List β := directory.entries.map (·.2)

/-! ## What a look-up sees -/

@[simp] theorem get?_empty (name : String) : (empty : Directory β).get? name = none := rfl

theorem lookup_eq_none_of_below {name : String} :
    ∀ {entries : List (String × β)}, (∀ entry ∈ entries, name < entry.1) →
      lookup name entries = none := by
  intro entries
  induction entries with
  | nil => intro _; rfl
  | cons first others ih =>
      intro above
      have differs : first.1 ≠ name := by
        intro same
        exact String.lt_irrefl name (same ▸ above first (by simp))
      simp only [lookup, if_neg differs]
      exact ih fun entry member => above entry (by simp [member])

theorem lookup_place_self (name : String) (change : Option β → β) :
    ∀ {entries : List (String × β)},
      entries.Pairwise (fun first second => first.1 < second.1) →
        lookup name (place name change entries) = some (change (lookup name entries)) := by
  intro entries
  induction entries with
  | nil => intro _; simp [place, lookup]
  | cons head rest ih =>
      intro ordered
      obtain ⟨key, value⟩ := head
      obtain ⟨headBefore, restOrdered⟩ := List.pairwise_cons.1 ordered
      simp only [place]
      split
      · rename_i before
        have above : ∀ entry ∈ (key, value) :: rest, name < entry.1 := by
          intro entry member
          rcases List.mem_cons.1 member with rfl | member
          · exact before
          · exact String.lt_trans before (headBefore entry member)
        rw [lookup_eq_none_of_below above]
        simp [lookup]
      · split
        · rename_i after
          have differs : key ≠ name := by
            intro same; exact String.lt_irrefl name (same ▸ after)
          simp only [lookup, if_neg differs]
          exact ih restOrdered
        · rename_i notBefore notAfter
          have same : key = name := by
            rcases Std.lt_trichotomy key name with before | same | after
            · exact absurd before notAfter
            · exact same
            · exact absurd after notBefore
          simp [lookup, same]

theorem lookup_place_of_ne {name other : String} (differs : other ≠ name)
    (change : Option β → β) :
    ∀ entries : List (String × β), lookup other (place name change entries) = lookup other entries := by
  intro entries
  induction entries with
  | nil => simp [place, lookup, Ne.symm differs]
  | cons head rest ih =>
      obtain ⟨key, value⟩ := head
      simp only [place]
      split
      · simp [lookup, Ne.symm differs]
      · split
        · simp only [lookup, ih]
        · rename_i notBefore notAfter
          have same : key = name := by
            rcases Std.lt_trichotomy key name with before | same | after
            · exact absurd before notAfter
            · exact same
            · exact absurd after notBefore
          simp [lookup, same, Ne.symm differs]

@[simp] theorem get?_alter_self (directory : Directory β) (name : String)
    (change : Option β → β) :
    (directory.alter name change).get? name = some (change (directory.get? name)) :=
  lookup_place_self name change directory.ascending

theorem get?_alter_of_ne (directory : Directory β) {name other : String}
    (differs : other ≠ name) (change : Option β → β) :
    (directory.alter name change).get? other = directory.get? other :=
  lookup_place_of_ne differs change directory.entries

theorem get?_insert (directory : Directory β) (name other : String) (value : β) :
    (directory.insert name value).get? other =
      if other = name then some value else directory.get? other := by
  split
  · rename_i same
    subst same
    exact get?_alter_self directory other _
  · rename_i differs
    exact get?_alter_of_ne directory differs _

theorem lookup_map (f : β → γ) (name : String) (entries : List (String × β)) :
    lookup name (entries.map fun entry => (entry.1, f entry.2)) = (lookup name entries).map f := by
  induction entries with
  | nil => rfl
  | cons head rest ih =>
      simp only [List.map_cons, lookup]
      split
      · rfl
      · exact ih

@[simp] theorem get?_map (f : β → γ) (directory : Directory β) (name : String) :
    (directory.map f).get? name = (directory.get? name).map f :=
  lookup_map f name directory.entries

theorem lookup_filter (keep : β → Bool) (name : String) :
    ∀ {entries : List (String × β)},
      entries.Pairwise (fun first second => first.1 < second.1) →
        lookup name (entries.filter fun entry => keep entry.2) = (lookup name entries).filter keep := by
  intro entries
  induction entries with
  | nil => intro _; rfl
  | cons head rest ih =>
      intro ordered
      obtain ⟨key, value⟩ := head
      obtain ⟨before, restOrdered⟩ := List.pairwise_cons.1 ordered
      have others := ih restOrdered
      by_cases same : key = name
      · subst same
        rw [lookup_eq_none_of_below before] at others
        cases kept : keep value with
        | true => simp [lookup, Option.filter_some, kept]
        | false => simpa [lookup, Option.filter_some, kept] using others
      · cases kept : keep value with
        | true => simpa [lookup, kept, same] using others
        | false => simpa [lookup, kept, same] using others

@[simp] theorem get?_filter (keep : β → Bool) (directory : Directory β) (name : String) :
    (directory.filter keep).get? name = (directory.get? name).filter keep :=
  lookup_filter keep name directory.ascending

theorem lookup_of_mem {entry : String × β} :
    ∀ {entries : List (String × β)},
      entries.Pairwise (fun first second => first.1 < second.1) → entry ∈ entries →
        lookup entry.1 entries = some entry.2 := by
  intro entries
  induction entries with
  | nil => intro _ member; cases member
  | cons head rest ih =>
      intro ordered member
      obtain ⟨headBefore, restOrdered⟩ := List.pairwise_cons.1 ordered
      rcases List.mem_cons.1 member with rfl | member
      · simp [lookup]
      · have differs : head.1 ≠ entry.1 := by
          intro same
          exact String.lt_irrefl entry.1 (same ▸ headBefore entry member)
        simp only [lookup, if_neg differs]
        exact ih restOrdered member

theorem mem_of_lookup {name : String} {value : β} :
    ∀ {entries : List (String × β)}, lookup name entries = some value → (name, value) ∈ entries := by
  intro entries
  induction entries with
  | nil => intro found; cases found
  | cons head rest ih =>
      intro found
      rw [lookup] at found
      split at found
      · rename_i same
        cases found
        exact same ▸ List.mem_cons_self
      · exact List.mem_cons_of_mem _ (ih found)

theorem mem_of_get? {directory : Directory β} {name : String} {value : β}
    (found : directory.get? name = some value) : (name, value) ∈ directory.entries :=
  mem_of_lookup found

theorem get?_of_mem (directory : Directory β) {entry : String × β}
    (member : entry ∈ directory.entries) : directory.get? entry.1 = some entry.2 :=
  lookup_of_mem directory.ascending member

/-- Entries in the order of their names are determined by what is found under each name. -/
theorem eq_of_lookup :
    ∀ {entries others : List (String × β)},
      entries.Pairwise (fun first second => first.1 < second.1) →
        others.Pairwise (fun first second => first.1 < second.1) →
          (∀ name, lookup name entries = lookup name others) → entries = others := by
  -- The first names of two such lists agree: the lesser one would be found in its own list only.
  have headFirst : ∀ {first second : String × β} {rest later : List (String × β)},
      (second :: later).Pairwise (fun first second => first.1 < second.1) →
        lookup first.1 (first :: rest) = lookup first.1 (second :: later) →
          ¬ first.1 < second.1 := by
    intro first second rest later ordered same before
    have above : ∀ entry ∈ second :: later, first.1 < entry.1 := by
      intro entry member
      rcases List.mem_cons.1 member with rfl | member
      · exact before
      · exact String.lt_trans before ((List.pairwise_cons.1 ordered).1 entry member)
    rw [lookup_eq_none_of_below above] at same
    simp [lookup] at same
  intro entries
  induction entries with
  | nil =>
      intro others _ _ same
      cases others with
      | nil => rfl
      | cons second later =>
          have found := same second.1
          simp [lookup] at found
  | cons first rest ih =>
      intro others ordered othersOrdered same
      cases others with
      | nil =>
          have found := same first.1
          simp [lookup] at found
      | cons second later =>
          have sameName : first.1 = second.1 := by
            rcases Std.lt_trichotomy first.1 second.1 with before | same' | after
            · exact absurd before (headFirst othersOrdered (same first.1))
            · exact same'
            · exact absurd after (headFirst ordered (same second.1).symm)
          have sameHead : first = second := by
            have found := same first.1
            simp only [lookup, sameName, if_true, Option.some.injEq] at found
            exact Prod.ext sameName found
          subst sameHead
          obtain ⟨before, restOrdered⟩ := List.pairwise_cons.1 ordered
          obtain ⟨beforeLater, laterOrdered⟩ := List.pairwise_cons.1 othersOrdered
          rw [ih restOrdered laterOrdered]
          intro name
          by_cases here : first.1 = name
          · subst here
            rw [lookup_eq_none_of_below before, lookup_eq_none_of_below beforeLater]
          · have found := same name
            simp only [lookup, if_neg here] at found
            exact found

theorem ext_get? {first second : Directory β}
    (same : ∀ name, first.get? name = second.get? name) : first = second := by
  obtain ⟨entries, ordered⟩ := first
  obtain ⟨others, othersOrdered⟩ := second
  have entriesEq : entries = others := eq_of_lookup ordered othersOrdered same
  subst entriesEq
  rfl

end Directory

end Sightline
