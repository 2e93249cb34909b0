import Sightline.Evidence

/-!
# Evidence commands

Everything that changes evidence, as data: a grid by itself is driven by lists of these.
-/

set_option autoImplicit false

namespace Sightline

inductive EvidenceCommand (α : Type) where
  | trace (camera : String) (ray : Segment α)
  | decay
deriving Repr

namespace Evidence

variable {α : Type} [Scalar α] {plan : EvidencePlan α}

/-- Carries out one command; a ray that is refused changes nothing. -/
def perform (e : Evidence plan) : EvidenceCommand α → Except Abort (Evidence plan)
  | .trace camera ray => do
    match ← e.trace camera ray with
    | .ok after => .ok after
    | .error _ => .ok e
  | .decay => .ok e.decay

def performAll (e : Evidence plan) : List (EvidenceCommand α) → Except Abort (Evidence plan)
  | [] => .ok e
  | command :: later => do (← e.perform command).performAll later

end Evidence

end Sightline
