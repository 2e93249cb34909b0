/-!
# What can be wrong with a JSON document

A document is read from its start, and the first problem met is the one reported.  It is cut short,
or it is no JSON, or a well-formed part of it is not what was expected there.
-/

set_option autoImplicit false

namespace Sightline.Json

inductive Found (α : Type) where
  | null
  | boolean (value : Bool)
  | natural (value : Nat)
  | negative (magnitude : Nat)
  | real (value : α)
  | text (value : String)
  | sequence
  | mapping
deriving Repr

inductive Mismatch (α : Type) where
  | wrongType (found : Found α) (expected : String)
  | belowZero (magnitude : Nat) (expected : String)
  /-- A sequence that ends before the fields that must be given. -/
  | tooShort (length : Nat) (expected : String) (fields : Nat)
  | missingField (name : String)
  | repeatedField (name : String)
  | unknownField (name : String) (known : List String)
deriving Repr

inductive Problem (α : Type) where
  | cut
  | malformed
  | mismatch (what : Mismatch α)
deriving Repr

end Sightline.Json
