import Sightline.Time.Instant

/-!
# Lives of targets

The life of a target is what a bystander would have noted of it: when it was set, when it claimed
rays, when it was looked at by an expiry, and whether it was merged away.  A life lasts if the target
was not merged away and no expiry came later than the time to live after its latest refresh.
-/

set_option autoImplicit false

namespace Sightline

/-- An expiry as one target sees it: when it came, and when the target had last been refreshed. -/
structure Sweep where
  time : Instant
  refreshed : Instant
deriving Repr, DecidableEq

/-- The life of a target, whose times stand newest first. -/
structure Life where
  set : Instant
  claimed : List Instant
  swept : List Sweep
  merged : Bool
deriving Repr, DecidableEq

namespace Life

def begin (now : Instant) : Life := ⟨now, [], [], false⟩

def refreshes (life : Life) : List Instant := life.claimed ++ [life.set]

def latest (life : Life) : Instant := life.claimed.headD life.set

def claim (now : Instant) (life : Life) : Life := { life with claimed := now :: life.claimed }

def sweep (now : Instant) (life : Life) : Life :=
  { life with swept := ⟨now, life.latest⟩ :: life.swept }

def join (life : Life) : Life := { life with merged := true }

def Lasts (ttl : Duration) (life : Life) : Prop :=
  life.merged = false ∧
    ∀ sweep ∈ life.swept, sweep.time.nanos ≤ sweep.refreshed.nanos + ttl.nanos

instance (ttl : Duration) (life : Life) : Decidable (life.Lasts ttl) :=
  inferInstanceAs (Decidable (_ ∧ _))

/-- The times at which a target was refreshed stand newest first and are past. -/
structure Timely (now : Instant) (life : Life) : Prop where
  newestFirst : life.refreshes.Pairwise fun later earlier => earlier.nanos ≤ later.nanos
  past : ∀ time ∈ life.refreshes, time.nanos ≤ now.nanos

theorem latest_mem (life : Life) : life.latest ∈ life.refreshes := by
  unfold latest refreshes
  cases life.claimed with
  | nil => exact List.mem_singleton_self life.set
  | cons time earlier => exact List.mem_cons_self

theorem Timely.le_latest {now : Instant} {life : Life} (timely : life.Timely now) :
    ∀ time ∈ life.refreshes, time.nanos ≤ life.latest.nanos := by
  intro time member
  have ordered := timely.newestFirst
  unfold refreshes latest at *
  cases claimed : life.claimed with
  | nil =>
      rw [claimed] at member
      rw [List.mem_singleton.1 member]
      exact Nat.le_refl _
  | cons newest earlier =>
      rw [claimed, List.cons_append] at member ordered
      rcases List.mem_cons.1 member with rfl | older
      · exact Nat.le_refl _
      · exact List.rel_of_pairwise_cons ordered older

theorem Timely.mono {now later : Instant} {life : Life} (timely : life.Timely now)
    (after : now.nanos ≤ later.nanos) : life.Timely later :=
  ⟨timely.newestFirst, fun time member => Nat.le_trans (timely.past time member) after⟩

theorem timely_begin (now : Instant) : (begin now).Timely now := by
  refine ⟨List.pairwise_singleton _ _, fun time member => ?_⟩
  rw [List.mem_singleton.1 member]
  exact Nat.le_refl _

theorem Timely.claim {now : Instant} {life : Life} (timely : life.Timely now) :
    (life.claim now).Timely now := by
  refine ⟨List.pairwise_cons.2 ⟨timely.past, timely.newestFirst⟩, fun time member => ?_⟩
  rcases List.mem_cons.1 member with rfl | older
  · exact Nat.le_refl _
  · exact timely.past time older

theorem Timely.sweep {now : Instant} {life : Life} (timely : life.Timely now) :
    (life.sweep now).Timely now :=
  ⟨timely.newestFirst, timely.past⟩

theorem Timely.join {now : Instant} {life : Life} (timely : life.Timely now) :
    life.join.Timely now :=
  ⟨timely.newestFirst, timely.past⟩

theorem lasts_begin (ttl : Duration) (now : Instant) : (begin now).Lasts ttl := by
  refine ⟨rfl, fun sweep member => ?_⟩
  cases member

theorem lasts_sweep (ttl : Duration) (now : Instant) (life : Life) :
    (life.sweep now).Lasts ttl ↔ life.Lasts ttl ∧ now.nanos ≤ life.latest.nanos + ttl.nanos := by
  unfold Lasts sweep
  rw [List.forall_mem_cons]
  constructor
  · rintro ⟨single, fresh, before⟩
    exact ⟨⟨single, before⟩, fresh⟩
  · rintro ⟨⟨single, before⟩, fresh⟩
    exact ⟨single, fresh, before⟩

theorem Lasts.claim {ttl : Duration} {life : Life} (lasts : life.Lasts ttl) (now : Instant) :
    (life.claim now).Lasts ttl :=
  lasts

theorem not_lasts_join (ttl : Duration) (life : Life) : ¬ life.join.Lasts ttl := by
  rintro ⟨single, _⟩
  cases single

end Life

/-! ## Lives that last -/

namespace Lives

variable {ttl : Duration} {change : Life → Life}

/-- The lives that last, each with its number. -/
def lastingFrom (ttl : Duration) : Nat → List Life → List (Nat × Life)
  | _, [] => []
  | number, life :: later =>
    if life.Lasts ttl then (number, life) :: lastingFrom ttl (number + 1) later
    else lastingFrom ttl (number + 1) later

def lasting (ttl : Duration) (lives : List Life) : List (Nat × Life) := lastingFrom ttl 0 lives

/-- Changes the life at one place among those that last. -/
def amend (ttl : Duration) (change : Life → Life) : Nat → List Life → List Life
  | _, [] => []
  | place, life :: later =>
    if life.Lasts ttl then
      match place with
      | 0 => change life :: later
      | place + 1 => life :: amend ttl change place later
    else life :: amend ttl change place later

theorem length_amend (place : Nat) (lives : List Life) :
    (amend ttl change place lives).length = lives.length := by
  induction lives generalizing place with
  | nil => rfl
  | cons life later ih =>
      unfold amend
      split
      · cases place with
        | zero => rfl
        | succ place => exact congrArg (· + 1) (ih place)
      · exact congrArg (· + 1) (ih place)

theorem mem_amend {place : Nat} {lives : List Life} {life : Life}
    (member : life ∈ amend ttl change place lives) :
    life ∈ lives ∨ ∃ before ∈ lives, life = change before := by
  induction lives generalizing place with
  | nil => cases member
  | cons first later ih =>
      have deeper : ∀ place, life ∈ first :: amend ttl change place later →
          life ∈ first :: later ∨ ∃ before ∈ first :: later, life = change before := by
        intro place member
        rcases List.mem_cons.1 member with rfl | there
        · exact .inl List.mem_cons_self
        · rcases ih there with same | ⟨before, old, changed⟩
          · exact .inl (List.mem_cons_of_mem _ same)
          · exact .inr ⟨before, List.mem_cons_of_mem _ old, changed⟩
      unfold amend at member
      split at member
      · cases place with
        | zero =>
            rcases List.mem_cons.1 member with changed | there
            · exact .inr ⟨first, List.mem_cons_self, changed⟩
            · exact .inl (List.mem_cons_of_mem _ there)
        | succ place => exact deeper place member
      · exact deeper place member

theorem lastingFrom_append (number : Nat) (lives later : List Life) :
    lastingFrom ttl number (lives ++ later) =
      lastingFrom ttl number lives ++ lastingFrom ttl (number + lives.length) later := by
  induction lives generalizing number with
  | nil => rfl
  | cons life rest ih =>
      have shifted : number + (life :: rest).length = number + 1 + rest.length := by
        rw [List.length_cons]
        omega
      rw [List.cons_append, lastingFrom, lastingFrom, ih, shifted]
      split
      · rfl
      · rfl

/-- A change that lets lives last touches only the life at its place. -/
theorem lastingFrom_amend_kept (kept : ∀ life : Life, life.Lasts ttl → (change life).Lasts ttl)
    (number place : Nat) (lives : List Life) :
    lastingFrom ttl number (amend ttl change place lives) =
      (lastingFrom ttl number lives).modify place fun entry => (entry.1, change entry.2) := by
  induction lives generalizing number place with
  | nil => simp [amend, lastingFrom]
  | cons life later ih =>
      by_cases lasts : life.Lasts ttl
      · cases place with
        | zero => simp [amend, lastingFrom, lasts, kept life lasts]
        | succ place => simp [amend, lastingFrom, lasts, ih]
      · simp [amend, lastingFrom, lasts, ih]

/-- A change that ends lives takes out the one at its place. -/
theorem lastingFrom_amend_ended (ended : ∀ life : Life, ¬ (change life).Lasts ttl)
    (number place : Nat) (lives : List Life) :
    lastingFrom ttl number (amend ttl change place lives) =
      (lastingFrom ttl number lives).eraseIdx place := by
  induction lives generalizing number place with
  | nil => simp [amend, lastingFrom]
  | cons life later ih =>
      by_cases lasts : life.Lasts ttl
      · cases place with
        | zero => simp [amend, lastingFrom, lasts, ended]
        | succ place => simp [amend, lastingFrom, lasts, ih]
      · simp [amend, lastingFrom, lasts, ih]

theorem lastingFrom_sweep (now : Instant) (number : Nat) (lives : List Life) :
    lastingFrom ttl number (lives.map (Life.sweep now)) =
      ((lastingFrom ttl number lives).filter fun entry =>
        decide (now.nanos ≤ entry.2.latest.nanos + ttl.nanos)).map fun entry =>
          (entry.1, entry.2.sweep now) := by
  induction lives generalizing number with
  | nil => rfl
  | cons life later ih =>
      by_cases lasts : life.Lasts ttl
      · by_cases fresh : now.nanos ≤ life.latest.nanos + ttl.nanos
        · simp [lastingFrom, Life.lasts_sweep, lasts, fresh, ih]
        · simp [lastingFrom, Life.lasts_sweep, lasts, fresh, ih]
      · simp [lastingFrom, Life.lasts_sweep, lasts, ih]

theorem mem_lastingFrom {number : Nat} {lives : List Life} {entry : Nat × Life} :
    entry ∈ lastingFrom ttl number lives ↔
      ∃ place, entry.1 = number + place ∧ lives[place]? = some entry.2 ∧ entry.2.Lasts ttl := by
  induction lives generalizing number with
  | nil => simp [lastingFrom]
  | cons life later ih =>
      have deeper : entry ∈ lastingFrom ttl (number + 1) later ↔
          ∃ place, entry.1 = number + (place + 1) ∧ (life :: later)[place + 1]? = some entry.2 ∧
            entry.2.Lasts ttl := by
        rw [ih]
        simp only [List.getElem?_cons_succ, Nat.add_assoc, Nat.add_comm 1]
      have first : entry ∈ lastingFrom ttl number (life :: later) ↔
          (entry = (number, life) ∧ life.Lasts ttl) ∨ entry ∈ lastingFrom ttl (number + 1) later := by
        by_cases lasts : life.Lasts ttl <;> simp [lastingFrom, lasts]
      rw [first, deeper]
      constructor
      · rintro (⟨rfl, lasts⟩ | ⟨place, found⟩)
        · exact ⟨0, rfl, rfl, lasts⟩
        · exact ⟨place + 1, found⟩
      · rintro ⟨place, numbered, found, lasts⟩
        cases place with
        | zero =>
            cases found
            exact .inl ⟨Prod.ext numbered rfl, lasts⟩
        | succ place => exact .inr ⟨place, numbered, found, lasts⟩

end Lives

end Sightline
