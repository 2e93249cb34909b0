/-!
# Aborts

An abort ends a session: the operation that meets it has no result and no state to go on from.
It is kept apart from a refused input, after which the session goes on unchanged.
-/

set_option autoImplicit false

namespace Sightline

inductive Abort where
  /-- A coordinate was to be held inside a range that holds nothing. -/
  | emptyRange
  | clockOverflow
  | feedTooLarge
  | gridTooLarge
deriving Repr, DecidableEq

theorem bind_eq_ok {ε β γ : Type} {x : Except ε β} {f : β → Except ε γ} {c : γ} :
    x >>= f = .ok c ↔ ∃ b, x = .ok b ∧ f b = .ok c := by
  cases x with
  | error e => simp [bind, Except.bind]
  | ok b => simp [bind, Except.bind]

def yields {ε β : Type} (x : Except ε β) (check : β → Bool) : Bool :=
  match x with
  | .ok b => check b
  | .error _ => false

theorem yields_iff {ε β : Type} {x : Except ε β} {check : β → Bool} :
    yields x check = true ↔ ∃ b, x = .ok b ∧ check b = true := by
  cases x <;> simp [yields]

end Sightline
