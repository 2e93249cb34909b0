import Sightline.Proofs.Json.Values
import Sightline.Settings.Document

/-!
# How settings are written

Every setting has its name and a kind, which says how its value is written.  Bounds are a record in
turn, with all four coordinates.
-/

set_option autoImplicit false

namespace Sightline

open Json

variable {α : Type} [Scalar α]

/-! ## Bounds -/

inductive BoundsKey where
  | minX
  | minY
  | maxX
  | maxY
deriving DecidableEq

namespace BoundsKey

def all : List BoundsKey := [.minX, .minY, .maxX, .maxY]

def name : BoundsKey → String
  | .minX => "min_x"
  | .minY => "min_y"
  | .maxX => "max_x"
  | .maxY => "max_y"

theorem mem_all (key : BoundsKey) : key ∈ all := by cases key <;> decide

theorem names_distinct : (all.map name).Nodup := by decide

end BoundsKey

namespace Bounds

def get : BoundsKey → Bounds α → α
  | .minX, b => b.minX
  | .minY, b => b.minY
  | .maxX, b => b.maxX
  | .maxY, b => b.maxY

/-- The bounds that have a coordinate for every key. -/
def ofKeys (coordinate : BoundsKey → α) : Bounds α :=
  ⟨coordinate .minX, coordinate .minY, coordinate .maxX, coordinate .maxY⟩

omit [Scalar α] in
theorem get_ofKeys (coordinate : BoundsKey → α) (key : BoundsKey) :
    get key (ofKeys coordinate) = coordinate key := by
  cases key <;> rfl

omit [Scalar α] in
theorem ofKeys_get (b : Bounds α) : ofKeys (fun key => get key b) = b := rfl

def put (key : BoundsKey) (b : Bounds α) (value : α) : Bounds α :=
  ofKeys (Function.update (fun key => get key b) key value)

abbrev shape (α : Type) [Scalar α] : Shape where
  Key := BoundsKey
  Value := fun _ => α
  keys := BoundsKey.all
  name := BoundsKey.name
  Spells := fun _ => ScalarText

def layout : Layout (shape α) (record : Record α (Bounds α)) where
  required := fun _ => true
  reader := fun _ => scalarReader
  put := put
  get := get
  fields := rfl
  lenient := rfl
  complete := BoundsKey.mem_all
  distinct := BoundsKey.names_distinct
  get_put := fun key _ _ => (get_ofKeys _ key).trans (Function.update_self _ _ _)
  get_put_ne := fun _ _ ne => (get_ofKeys _ _).trans (Function.update_of_ne ne _ _)
  reads := ScalarText.read
  passesBlanks := fun _ => scalarReader_skipBlanks
  opens := ScalarText.opens
  shortens := ScalarText.length_lt

end Bounds

/-- Bounds with all four coordinates. -/
structure BoundsText (b : Bounds α) (text rest : List Char) : Prop where
  written : ∃ items, (Bounds.shape α).RecordText items text rest ∧
    ∀ key, items.dlookup key = some (Bounds.get key b)

namespace BoundsText

variable {b : Bounds α} {text rest : List Char}

theorem read (spelled : BoundsText b text rest) :
    (Bounds.record : Record α (Bounds α)).reader text = .ok (b, rest) := by
  obtain ⟨items, written, given⟩ := spelled
  have covered : ∀ key, Bounds.layout.required key = true → key ∈ items.keys := fun key _ =>
    List.dlookup_isSome.1 (by rw [given]; rfl)
  rw [Bounds.layout.reader_of_recordText written covered]
  have same : ∀ key, Bounds.get key (Bounds.layout.fill Bounds.record.draft items) = Bounds.get key b := by
    intro key
    have got := Bounds.layout.get_fill (Bounds.layout.nodupKeys written) Bounds.record.draft key
    rwa [given] at got
  rw [← Bounds.ofKeys_get (Bounds.layout.fill Bounds.record.draft items), funext same,
    Bounds.ofKeys_get]

theorem opens (spelled : BoundsText b text rest) : Opens text := by
  obtain ⟨items, written, _⟩ := spelled
  exact written.opens

theorem length_lt (spelled : BoundsText b text rest) : rest.length < text.length := by
  obtain ⟨items, written, _⟩ := spelled
  exact Bounds.layout.recordText_length_lt written

end BoundsText

/-! ## Settings -/

inductive SettingKey where
  | bounds
  | columns
  | rows
  | spawnPeriod
  | warmup
  | targetRadius
  | targetTtl
  | sensitivity
  | increment
  | retention
  | maskThreshold
  | spawnThreshold
  | mergeSlack
  | spawnSlack
  | rayLength
  | unknownCameraInterval
deriving DecidableEq

inductive SettingKind where
  | bounds
  | size
  | millis
  | scalar

namespace SettingKind

def Value (α : Type) : SettingKind → Type
  | .bounds => Bounds α
  | .size | .millis => Nat
  | .scalar => α

def Spells : (kind : SettingKind) → kind.Value α → List Char → List Char → Prop
  | .bounds => BoundsText
  | .size | .millis => CountText
  | .scalar => fun x : α => ScalarText x

def reader : (kind : SettingKind) → Reader α (kind.Value α)
  | .bounds => Bounds.record.reader
  | .size => countReader "usize"
  | .millis => countReader "u64"
  | .scalar => scalarReader

variable {kind : SettingKind} {value : kind.Value α} {text rest : List Char}

theorem reads (spelled : kind.Spells value text rest) : kind.reader text = .ok (value, rest) := by
  cases kind with
  | bounds => exact BoundsText.read spelled
  | size | millis => exact CountText.read _ spelled
  | scalar => exact ScalarText.read spelled

theorem reader_skipBlanks (kind : SettingKind) (text : List Char) :
    (kind.reader (skipBlanks text) : Except (Problem α) (kind.Value α × List Char)) =
      kind.reader text := by
  cases kind with
  | bounds => exact Record.reader_skipBlanks Bounds.record text
  | size | millis => exact countReader_skipBlanks _ text
  | scalar => exact scalarReader_skipBlanks text

theorem opens (spelled : kind.Spells value text rest) : Opens text := by
  cases kind with
  | bounds => exact BoundsText.opens spelled
  | size | millis => exact CountText.opens spelled
  | scalar => exact ScalarText.opens spelled

theorem length_lt (spelled : kind.Spells value text rest) : rest.length < text.length := by
  cases kind with
  | bounds => exact BoundsText.length_lt spelled
  | size | millis => exact CountText.length_lt spelled
  | scalar => exact ScalarText.length_lt spelled

end SettingKind

namespace SettingKey

/-- All settings, in the order that they have in a sequence. -/
def all : List SettingKey :=
  [.bounds, .columns, .rows, .spawnPeriod, .warmup, .targetRadius, .targetTtl, .sensitivity,
    .increment, .retention, .maskThreshold, .spawnThreshold, .mergeSlack, .spawnSlack, .rayLength,
    .unknownCameraInterval]

def name : SettingKey → String
  | .bounds => "bounds"
  | .columns => "grid_width"
  | .rows => "grid_height"
  | .spawnPeriod => "spawn_period_ms"
  | .warmup => "warmup_ms"
  | .targetRadius => "focal_point_radius"
  | .targetTtl => "focal_point_ttl_ms"
  | .sensitivity => "camera_sensitivity"
  | .increment => "trace_increment"
  | .retention => "decay_retention"
  | .maskThreshold => "mask_threshold"
  | .spawnThreshold => "spawn_threshold"
  | .mergeSlack => "merge_slack"
  | .spawnSlack => "spawn_slack"
  | .rayLength => "ray_length"
  | .unknownCameraInterval => "unknown_camera_log_interval_ms"

def kind : SettingKey → SettingKind
  | .bounds => .bounds
  | .columns | .rows => .size
  | .spawnPeriod | .warmup | .targetTtl | .unknownCameraInterval => .millis
  | .targetRadius | .sensitivity | .increment | .retention | .maskThreshold | .spawnThreshold
  | .mergeSlack | .spawnSlack | .rayLength => .scalar

theorem mem_all (key : SettingKey) : key ∈ all := by cases key <;> decide

theorem names_distinct : (all.map name).Nodup := by decide +kernel

end SettingKey

namespace Settings

def get : (key : SettingKey) → Settings α → key.kind.Value α
  | .bounds, s => s.bounds
  | .columns, s => s.columns
  | .rows, s => s.rows
  | .spawnPeriod, s => s.spawnPeriod
  | .warmup, s => s.warmup
  | .targetRadius, s => s.targetRadius
  | .targetTtl, s => s.targetTtl
  | .sensitivity, s => s.sensitivity
  | .increment, s => s.increment
  | .retention, s => s.retention
  | .maskThreshold, s => s.maskThreshold
  | .spawnThreshold, s => s.spawnThreshold
  | .mergeSlack, s => s.mergeSlack
  | .spawnSlack, s => s.spawnSlack
  | .rayLength, s => s.rayLength
  | .unknownCameraInterval, s => s.unknownCameraInterval

/-- The settings that have a value for every key. -/
def ofKeys (value : (key : SettingKey) → key.kind.Value α) : Settings α where
  bounds := value .bounds
  columns := value .columns
  rows := value .rows
  spawnPeriod := value .spawnPeriod
  warmup := value .warmup
  targetRadius := value .targetRadius
  targetTtl := value .targetTtl
  sensitivity := value .sensitivity
  increment := value .increment
  retention := value .retention
  maskThreshold := value .maskThreshold
  spawnThreshold := value .spawnThreshold
  mergeSlack := value .mergeSlack
  spawnSlack := value .spawnSlack
  rayLength := value .rayLength
  unknownCameraInterval := value .unknownCameraInterval

omit [Scalar α] in
theorem get_ofKeys (value : (key : SettingKey) → key.kind.Value α) (key : SettingKey) :
    get key (ofKeys value) = value key := by
  cases key <;> rfl

omit [Scalar α] in
theorem ofKeys_get (s : Settings α) : ofKeys (fun key => get key s) = s := rfl

def put (key : SettingKey) (s : Settings α) (value : key.kind.Value α) : Settings α :=
  ofKeys (Function.update (fun key => get key s) key value)

abbrev shape (α : Type) [Scalar α] : Shape where
  Key := SettingKey
  Value := fun key => key.kind.Value α
  keys := SettingKey.all
  name := SettingKey.name
  Spells := fun key => key.kind.Spells

def layout : Layout (shape α) (record : Record α (Settings α)) where
  required := fun _ => false
  reader := fun key => key.kind.reader
  put := put
  get := get
  fields := rfl
  lenient := rfl
  complete := SettingKey.mem_all
  distinct := SettingKey.names_distinct
  get_put := fun key _ _ => (get_ofKeys _ key).trans (Function.update_self _ _ _)
  get_put_ne := fun _ _ ne => (get_ofKeys _ _).trans (Function.update_of_ne ne _ _)
  reads := SettingKind.reads
  passesBlanks := fun key => key.kind.reader_skipBlanks
  opens := SettingKind.opens
  shortens := SettingKind.length_lt

end Settings

end Sightline
