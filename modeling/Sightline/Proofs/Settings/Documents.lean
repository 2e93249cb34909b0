import Sightline.Engine
import Sightline.Proofs.Engine.Sites
import Sightline.Proofs.Json.Finite
import Sightline.Proofs.Settings.Layout

/-!
# Settings from documents

A document says of any settings what they are to be, in any order and with anything else between
them; the others keep their standard values.  What is read and passes the check can be cut into
cells, for no number of a document is infinite.
-/

set_option autoImplicit false

namespace Sightline

open Json

namespace Settings

section Reading

variable {α : Type} [Scalar α]

/-- Standard settings, but for those that are given. -/
def given (items : (shape α).Items) : Settings α :=
  ofKeys fun key => (items.dlookup key).getD (get key standard)

variable {items others : (shape α).Items} {text other : String}

end Reading

end Settings

/-! ## Settings that are read are finite -/

theorem Bounds.isFinite_of_get {b : Bounds Float}
    (finite : ∀ key, Scalar.isFinite (Bounds.get key b) = true) : b.isFinite = true := by
  have minX : Scalar.isFinite b.minX = true := finite .minX
  have minY : Scalar.isFinite b.minY = true := finite .minY
  have maxX : Scalar.isFinite b.maxX = true := finite .maxX
  have maxY : Scalar.isFinite b.maxY = true := finite .maxY
  simp [Bounds.isFinite, minX, minY, maxX, maxY]

theorem Bounds.isFinite_of_read {b : Bounds Float} {text rest : List Char}
    (read : Bounds.record.reader text = .ok (b, rest)) : b.isFinite = true := by
  refine Bounds.isFinite_of_get (Bounds.layout.get_of_read (Q := fun _ x => Scalar.isFinite x = true)
    (fun key => ?_) scalarReader_finite read)
  cases key <;> exact Binary64.zero_finite

def SettingKind.IsFinite : (kind : SettingKind) → kind.Value Float → Prop
  | .bounds => fun b : Bounds Float => b.isFinite = true
  | .size | .millis => fun _ => True
  | .scalar => fun x : Float => Scalar.isFinite x = true

theorem SettingKind.isFinite_of_read {kind : SettingKind} {value : kind.Value Float}
    {text rest : List Char} (read : kind.reader text = .ok (value, rest)) : kind.IsFinite value := by
  cases kind with
  | bounds => exact Bounds.isFinite_of_read read
  | size | millis => trivial
  | scalar => exact scalarReader_finite read

namespace Settings

theorem isFinite_standard (key : SettingKey) :
    key.kind.IsFinite (get key (standard : Settings Float)) := by
  cases key <;> trivial

theorem isFinite_of_read {s : Settings Float} {text rest : List Char}
    (read : record.reader text = .ok (s, rest)) (key : SettingKey) : key.kind.IsFinite (get key s) :=
  layout.get_of_read (Q := fun key value => key.kind.IsFinite value) isFinite_standard
    SettingKind.isFinite_of_read read key

end Settings

end Sightline
