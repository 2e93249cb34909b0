import Mathlib.Algebra.Group.Nat.Defs
import Mathlib.Data.List.Perm.Basic
import Sightline.Proofs.Tracker.Rules
import Sightline.Tracker.Command

/-!
# The ledger of ids

Replies say which ids were given out, which were removed by a merge and which lapsed.  A tracker
accounts for a ledger when its live targets are just the ids that were given out and have not gone,
in the order in which they were given out; every rule keeps the tracker accounting for the ledger
of all replies so far.  As long as the serial numbers have not wrapped, no id occurs twice.
-/

set_option autoImplicit false

namespace Sightline

structure Ledger where
  issued : List TargetId
  joined : List TargetId
  lapsed : List TargetId
deriving Repr, DecidableEq

namespace Ledger

def blank : Ledger := ⟨[], [], []⟩

def append (l later : Ledger) : Ledger :=
  ⟨l.issued ++ later.issued, l.joined ++ later.joined, l.lapsed ++ later.lapsed⟩

instance : Append Ledger := ⟨append⟩

def gone (l : Ledger) : List TargetId := l.joined ++ l.lapsed

def issue (id? : Option TargetId) : Ledger := ⟨id?.toList, [], []⟩

def join {α : Type} (merge? : Option (Merge α)) : Ledger := ⟨[], (merge?.map (·.removed)).toList, []⟩

def lapse (ids : List TargetId) : Ledger := ⟨[], [], ids⟩

def total : List Ledger → Ledger
  | [] => blank
  | l :: later => l ++ total later

@[simp] theorem issued_append (l later : Ledger) : (l ++ later).issued = l.issued ++ later.issued := rfl

@[simp] theorem joined_append (l later : Ledger) : (l ++ later).joined = l.joined ++ later.joined := rfl

@[simp] theorem lapsed_append (l later : Ledger) : (l ++ later).lapsed = l.lapsed ++ later.lapsed := rfl

@[simp] theorem append_blank (l : Ledger) : l ++ blank = l := by
  change Ledger.mk _ _ _ = l
  simp [blank]

@[simp] theorem issue_none : issue none = blank := rfl

@[simp] theorem join_none {α : Type} : join (none : Option (Merge α)) = blank := rfl

theorem append_assoc (first second third : Ledger) :
    first ++ second ++ third = first ++ (second ++ third) := by
  change Ledger.mk _ _ _ = Ledger.mk _ _ _
  simp only [issued_append, joined_append, lapsed_append, List.append_assoc]

theorem total_append (ledgers later : List Ledger) :
    total (ledgers ++ later) = total ledgers ++ total later := by
  induction ledgers with
  | nil => rfl
  | cons l rest ih => rw [List.cons_append, total, total, ih, append_assoc]

theorem mem_gone_append {l later : Ledger} {id : TargetId} :
    id ∈ (l ++ later).gone ↔ id ∈ l.gone ∨ id ∈ later.gone := by
  simp only [gone, joined_append, lapsed_append, List.mem_append]
  tauto

/-- The books are in order while `live` are the live ids: the ids were named `g1`, `g2` and so on in
the order in which they were given out, none occurs twice, each is either live or gone, in one way
and once, and the live ones stand in the order of their numbers. -/
structure Balances (l : Ledger) (live : List TargetId) : Prop where
  named : ∀ (k : Nat) (id : TargetId), l.issued[k]? = some id → id.name = "g" ++ toString (k + 1)
  unique : l.issued.Nodup
  settled : l.issued.Perm (live ++ l.joined ++ l.lapsed)
  ordered : live.Pairwise fun first second => first.serial < second.serial

end Ledger

namespace IdIssuer

theorem length_take (issuer : IdIssuer) (n : Nat) : (issuer.take n).length = n := by
  induction n generalizing issuer with
  | zero => rfl
  | succ n ih => exact congrArg (· + 1) (ih issuer.next.2)

theorem getElem?_take (issuer : IdIssuer) {n k : Nat} (below : k < n) :
    (issuer.take n)[k]? = some ⟨issuer.last + UInt64.ofNat (k + 1)⟩ := by
  induction n generalizing issuer k with
  | zero => omega
  | succ n ih =>
      cases k with
      | zero => rfl
      | succ k =>
          have later := ih issuer.next.2 (Nat.lt_of_succ_lt_succ below)
          have same : issuer.last + 1 + UInt64.ofNat (k + 1) = issuer.last + UInt64.ofNat (k + 1 + 1) := by
            rw [UInt64.ofNat_add (k + 1) 1, UInt64.add_assoc, UInt64.add_comm 1]
            rfl
          rw [take, List.getElem?_cons_succ, later, next, same]

theorem take_succ (n : Nat) :
    fresh.take (n + 1) = fresh.take n ++ [⟨UInt64.ofNat n + 1⟩] := by
  refine List.ext_getElem? fun k => ?_
  rcases Nat.lt_trichotomy k n with before | rfl | after
  · rw [List.getElem?_append_left (by rw [length_take]; exact before),
      getElem?_take fresh before, getElem?_take fresh (by omega)]
  · rw [List.getElem?_append_right (Nat.le_of_eq (length_take fresh k)), length_take, getElem?_take fresh (by omega)]
    simp [fresh, UInt64.ofNat_add]
  · rw [List.getElem?_eq_none (by rw [length_take]; omega),
      List.getElem?_eq_none (by rw [List.length_append, length_take]; simp; omega)]

theorem toNat_serial_take {n k : Nat} {id : TargetId} (bounded : n < 2 ^ 64)
    (found : (fresh.take n)[k]? = some id) : id.serial.toNat = k + 1 := by
  have below : k < n := by
    have inside := (List.getElem?_eq_some_iff.1 found).1
    rwa [length_take] at inside
  rw [getElem?_take fresh below] at found
  cases found
  simp only [fresh, UInt64.zero_add, UInt64.toNat_ofNat']
  exact Nat.mod_eq_of_lt (by omega)

theorem ascending_take {n : Nat} (bounded : n < 2 ^ 64) :
    (fresh.take n).Pairwise fun first second => first.serial < second.serial := by
  refine List.pairwise_iff_getElem.2 fun i j iInside jInside before => ?_
  have first := toNat_serial_take bounded (List.getElem?_eq_getElem iInside)
  have second := toNat_serial_take bounded (List.getElem?_eq_getElem jInside)
  rw [UInt64.lt_iff_toNat_lt, first, second]
  omega

end IdIssuer

namespace Tracker

variable {α : Type}

def ids (t : Tracker α) : List TargetId := t.targets.map (·.id)

/-- The live targets are those that a ledger leaves. -/
structure Accounts (t : Tracker α) (l : Ledger) : Prop where
  issued : l.issued = IdIssuer.fresh.take l.issued.length
  issuer : t.issuer = ⟨UInt64.ofNat l.issued.length⟩
  ordered : t.ids.Sublist l.issued
  settled : l.issued.Perm (t.ids ++ l.gone)

namespace Accounts

variable {t after : Tracker α} {l : Ledger}

theorem empty : (Tracker.empty : Tracker α).Accounts .blank := ⟨rfl, rfl, .slnil, .nil⟩

theorem balances (accounts : t.Accounts l) (bounded : l.issued.length < 2 ^ 64) :
    l.Balances t.ids := by
  have ascending := IdIssuer.ascending_take bounded
  rw [← accounts.issued] at ascending
  refine ⟨?_, ?_, ?_, ?_⟩
  · intro k id found
    rw [accounts.issued] at found
    rw [TargetId.name, IdIssuer.toNat_serial_take bounded found]
  · refine ascending.imp fun before same => ?_
    exact absurd (same ▸ before) (UInt64.lt_irrefl _)
  · rw [List.append_assoc]
    exact accounts.settled
  · exact ascending.sublist accounts.ordered

theorem kept (accounts : t.Accounts l) (sameIds : after.ids = t.ids)
    (sameIssuer : after.issuer = t.issuer) : after.Accounts l where
  issued := accounts.issued
  issuer := sameIssuer.trans accounts.issuer
  ordered := sameIds ▸ accounts.ordered
  settled := sameIds ▸ accounts.settled

theorem issue (accounts : t.Accounts l) (newIds : after.ids = t.ids ++ [t.issuer.next.1])
    (newIssuer : after.issuer = t.issuer.next.2) :
    after.Accounts (l ++ .issue (some t.issuer.next.1)) where
  issued := by
    have id : t.issuer.next.1 = ⟨UInt64.ofNat l.issued.length + 1⟩ := by
      rw [accounts.issuer]
      rfl
    simp only [Ledger.issued_append, Ledger.issue, Option.toList_some, List.length_append,
      List.length_singleton]
    rw [IdIssuer.take_succ, ← accounts.issued, id]
  issuer := by
    rw [newIssuer, accounts.issuer]
    simp [IdIssuer.next, Ledger.issue, UInt64.ofNat_add]
  ordered := newIds ▸ accounts.ordered.append (.refl _)
  settled := by
    have moved : (l.gone ++ [t.issuer.next.1]).Perm ([t.issuer.next.1] ++ l.gone) :=
      List.perm_append_comm
    have counted := accounts.settled.append_right [t.issuer.next.1]
    rw [List.append_assoc] at counted
    rw [newIds, List.append_assoc]
    simpa [Ledger.gone, Ledger.issue] using counted.trans (moved.append_left t.ids)

theorem remove (accounts : t.Accounts l) {index : Nat} {id : TargetId}
    (found : t.ids[index]? = some id) (newIds : after.ids = t.ids.eraseIdx index)
    (sameIssuer : after.issuer = t.issuer) : after.Accounts (l ++ ⟨[], [id], []⟩) where
  issued := by simpa using accounts.issued
  issuer := by simpa using sameIssuer.trans accounts.issuer
  ordered := by
    rw [newIds]
    simpa using (List.eraseIdx_sublist _ _).trans accounts.ordered
  settled := by
    obtain ⟨inside, atIndex⟩ := List.getElem?_eq_some_iff.1 found
    have split := List.getElem_cons_eraseIdx_perm inside
    rw [atIndex] at split
    have counted := (accounts.settled.trans (split.symm.append_right _))
    rw [newIds]
    -- The rest is a matter of how often each id occurs.
    simp only [List.perm_iff_count] at counted ⊢
    intro other
    specialize counted other
    simp only [Ledger.gone, Ledger.issued_append, Ledger.joined_append, Ledger.lapsed_append,
      List.append_nil, List.count_append, List.cons_append, List.count_cons, List.count_nil] at counted ⊢
    omega

theorem drop (accounts : t.Accounts l) (stale : Tracked α → Bool)
    (left : after.targets = t.targets.filter fun target => !stale target)
    (sameIssuer : after.issuer = t.issuer) :
    after.Accounts (l ++ .lapse ((t.targets.filter stale).map (·.id))) where
  issued := by simpa [Ledger.lapse] using accounts.issued
  issuer := by simpa [Ledger.lapse] using sameIssuer.trans accounts.issuer
  ordered := by
    have fewer : after.ids.Sublist t.ids := by
      rw [ids, left]
      exact List.filter_sublist.map _
    simpa [Ledger.lapse] using fewer.trans accounts.ordered
  settled := by
    have split := (List.filter_append_perm stale t.targets).map (·.id)
    have counted := accounts.settled.trans (split.symm.append_right _)
    rw [ids, left]
    simp only [List.perm_iff_count] at counted ⊢
    intro other
    specialize counted other
    simp only [Ledger.gone, Ledger.lapse, Ledger.issued_append, Ledger.joined_append,
      Ledger.lapsed_append, List.append_nil, List.map_append, List.count_append] at counted ⊢
    omega

end Accounts

end Tracker

end Sightline
