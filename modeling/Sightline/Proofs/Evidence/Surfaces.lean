import Sightline.Proofs.Engine.Steps
import Sightline.Proofs.Evidence.Fading
import Sightline.Proofs.Evidence.Scratch
import Sightline.Proofs.Scalar.Weights

/-!
# What a survey shows

A survey goes over its buffers once for every layer and twice more, and each survey finds in them
what the last one has left.  Told by the layers alone: a cell shows the sum of them all, in the order
of the names, where two cameras are above the threshold, and zero elsewhere.
-/

set_option autoImplicit false

namespace Sightline

variable {α : Type} [Scalar α] {plan : EvidencePlan α}

/-! ## Layers in the order of their names -/

/-- The layers of a grid, each with its camera, in the order of the names. -/
structure Evidence.Lists (e : Evidence plan) (listing : List (String × plan.Layer)) : Prop where
  ascending : listing.Pairwise fun first second => first.1 < second.1
  filed : ∀ camera layer, (camera, layer) ∈ listing ↔ e.layer? camera = some layer

namespace EvidencePlan

/-- The layers added to zero, one after the other. -/
def summed (plan : EvidencePlan α) (listing : List (String × plan.Layer)) (cell : Cell)
    (inside : Raster.Holds plan.tiling.rows plan.tiling.columns cell) : α :=
  listing.foldl (fun sum entry => sum + entry.2.value cell inside) 0

/-- Two cameras are above the threshold in a cell. -/
def Crossed (plan : EvidencePlan α) (listing : List (String × plan.Layer)) (cell : Cell)
    (inside : Raster.Holds plan.tiling.rows plan.tiling.columns cell) : Prop :=
  ∃ first ∈ listing, ∃ second ∈ listing, first.1 ≠ second.1 ∧
    plan.maskThreshold < first.2.value cell inside ∧
      plan.maskThreshold < second.2.value cell inside

instance (listing : List (String × plan.Layer)) (cell : Cell)
    (inside : Raster.Holds plan.tiling.rows plan.tiling.columns cell) :
    Decidable (plan.Crossed listing cell inside) :=
  inferInstanceAs (Decidable (∃ first ∈ listing, _))

/-- A surface as the layers have it.  A sum that has left the range of the numbers is not promised to
be masked. -/
structure Shows (plan : EvidencePlan α) (listing : List (String × plan.Layer))
    (surface : plan.Layer) : Prop where
  sum : ∀ cell inside, plan.Crossed listing cell inside →
    surface.value cell inside = plan.summed listing cell inside
  nothing : ∀ cell inside, ¬ plan.Crossed listing cell inside →
    Scalar.isFinite (plan.summed listing cell inside) = true → surface.value cell inside = 0
  blank : listing = [] → surface = .fill _ _ 0

end EvidencePlan

namespace Evidence

variable {e other : Evidence plan} {listing : List (String × plan.Layer)} {cell : Cell}
  {inside : Raster.Holds plan.tiling.rows plan.tiling.columns cell}

theorem lists_entries (e : Evidence plan) : e.Lists e.layers.entries :=
  ⟨e.layers.ascending, fun _ _ => ⟨fun member => e.layers.get?_of_mem member, Directory.mem_of_get?⟩⟩

theorem Lists.eq_entries (lists : e.Lists listing) : listing = e.layers.entries := by
  refine Directory.eq_of_lookup lists.ascending e.layers.ascending fun camera => ?_
  apply Option.ext
  intro layer
  constructor
  · intro found
    exact (lists.filed camera layer).1 (Directory.mem_of_lookup found)
  · intro filed
    exact Directory.lookup_of_mem lists.ascending ((lists.filed camera layer).2 filed)

theorem Lists.unique (lists : e.Lists listing) (others : other.Lists listing) : e = other := by
  obtain ⟨layers⟩ := e
  obtain ⟨otherLayers⟩ := other
  refine congrArg Evidence.mk (Directory.ext_get? fun camera => Option.ext fun layer => ?_)
  exact (lists.filed camera layer).symm.trans (others.filed camera layer)

theorem summed_entries (e : Evidence plan) (cell : Cell)
    (inside : Raster.Holds plan.tiling.rows plan.tiling.columns cell) :
    plan.summed e.layers.entries cell inside = e.total cell inside := by
  rw [total, Directory.values, List.foldl_map]
  rfl

theorem crossed_entries_iff : plan.Crossed e.layers.entries cell inside ↔ e.Salient cell inside := by
  constructor
  · rintro ⟨first, firstMember, second, secondMember, apart, firstAbove, secondAbove⟩
    exact e.layers.one_lt_countP apart (e.layers.get?_of_mem firstMember)
      (e.layers.get?_of_mem secondMember) (decide_eq_true firstAbove) (decide_eq_true secondAbove)
  · intro salient
    obtain ⟨first, second, a, b, apart, firstFiled, secondFiled, firstAbove, secondAbove⟩ :=
      e.layers.exists_two_of_countP salient
    exact ⟨(first, a), Directory.mem_of_get? firstFiled, (second, b),
      Directory.mem_of_get? secondFiled, apart, of_decide_eq_true firstAbove,
      of_decide_eq_true secondAbove⟩

/-! ## The surface -/

theorem value_surface_of_salient [LawfulScalar α] (salient : e.Salient cell inside) :
    e.surface.value cell inside = e.total cell inside := by
  have supported : 1 < e.layers.values.countP (supports cell inside) := salient
  rw [value_surface_weighed fun blank => not_salient_of_no_layers blank salient, weight,
    if_pos supported]
  exact LawfulScalar.mul_one _

theorem total_mul_zero [WeighingScalar α] (nonneg : e.AllCells (0 ≤ ·))
    (finite : Scalar.isFinite (e.total cell inside) = true) : e.total cell inside * 0 = 0 := by
  have values : e.total cell inside =
      (e.layers.values.map (·.value cell inside)).foldl (· + ·) 0 := by
    rw [List.foldl_map]
    rfl
  rw [values] at finite ⊢
  refine WeighingScalar.sum_mul_zero ?_ finite
  intro value member
  obtain ⟨layer, filed, rfl⟩ := List.mem_map.1 member
  exact nonneg.of_values filed cell inside

theorem value_surface_of_not_salient [WeighingScalar α] (nonneg : e.AllCells (0 ≤ ·))
    (dull : ¬ e.Salient cell inside) (finite : Scalar.isFinite (e.total cell inside) = true) :
    e.surface.value cell inside = 0 := by
  have unsupported : ¬ 1 < e.layers.values.countP (supports cell inside) := dull
  by_cases blank : e.layers.entries = []
  · rw [surface_of_no_layers blank, Raster.value_fill]
  · rw [value_surface_weighed blank, weight, if_neg unsupported]
    exact total_mul_zero nonneg finite

theorem shows_surface [LawfulScalar α] [WeighingScalar α] (nonneg : e.AllCells (0 ≤ ·)) :
    plan.Shows e.layers.entries e.surface := by
  refine ⟨fun cell inside crossed => ?_, fun cell inside uncrossed finite => ?_,
    surface_of_no_layers⟩
  · rw [summed_entries]
    exact value_surface_of_salient (crossed_entries_iff.1 crossed)
  · rw [summed_entries] at finite
    exact value_surface_of_not_salient nonneg (mt crossed_entries_iff.2 uncrossed) finite

end Evidence

/-! ## A grid at work -/

/-- A grid with the buffers of its surveys and with its gauges. -/
structure Desk (plan : EvidencePlan α) where
  evidence : Evidence plan
  scratch : Scratch plan
  tally : Tally α

inductive DeskCommand (α : Type) where
  | change (command : EvidenceCommand α)
  | survey
deriving Repr

def Desk.survey (desk : Desk plan) : plan.Layer × Desk plan :=
  let surveyed := desk.evidence.surveyIn desk.scratch desk.tally
  (surveyed.1.1, ⟨desk.evidence, surveyed.2, surveyed.1.2⟩)

/-- Carries out the commands and returns what the surveys among them show. -/
def Desk.performAll (desk : Desk plan) :
    List (DeskCommand α) → Except Abort (List plan.Layer × Desk plan)
  | [] => .ok ([], desk)
  | .change command :: later => do
    let evidence ← desk.evidence.perform command
    ({ desk with evidence }).performAll later
  | .survey :: later => do
    let (surfaces, last) ← desk.survey.2.performAll later
    .ok (desk.survey.1 :: surfaces, last)

/-- The surfaces of evidence alone, as the commands change it. -/
def Evidence.displayAll (e : Evidence plan) :
    List (DeskCommand α) → Except Abort (List plan.Layer × Evidence plan)
  | [] => .ok ([], e)
  | .change command :: later => do (← e.perform command).displayAll later
  | .survey :: later => do
    let (surfaces, last) ← e.displayAll later
    .ok (e.surface :: surfaces, last)

namespace Desk

variable [LawfulScalar α] [CountingScalar α]

theorem survey_fst (desk : Desk plan) : desk.survey.1 = desk.evidence.surface := by
  unfold survey
  dsimp only
  rw [Evidence.surveyIn_fst, Evidence.survey_fst]

/-- Nothing but the evidence decides what a run shows. -/
theorem performAll_eq_displayAll (desk : Desk plan) (commands : List (DeskCommand α)) :
    (desk.performAll commands).map (fun run => (run.1, run.2.evidence)) =
      desk.evidence.displayAll commands := by
  induction commands generalizing desk with
  | nil => rfl
  | cons command later ih =>
      cases command with
      | change command =>
          rw [performAll, Evidence.displayAll]
          cases desk.evidence.perform command with
          | error abort => rfl
          | ok evidence => exact ih { desk with evidence }
      | survey =>
          -- the survey leaves other buffers behind, and what comes later holds for any
          have rest := ih desk.survey.2
          change _ = desk.evidence.displayAll later at rest
          rw [performAll, Evidence.displayAll, ← rest, ← desk.survey_fst]
          cases desk.survey.2.performAll later with
          | error abort => rfl
          | ok run => rfl

end Desk

/-- A survey shows the sum of the layers where two of them are above the threshold and zero
elsewhere, whatever has been left in the buffers; it changes no layer, shows the same for every grid
with the same layers, and in a run of changes and surveys the buffers pass nothing on. -/
theorem surveys_show_crossings [LawfulScalar α] [CountingScalar α] [WeighingScalar α]
    {desk : Desk plan} {listing : List (String × plan.Layer)} (lists : desk.evidence.Lists listing)
    (nonneg : desk.evidence.AllCells (0 ≤ ·)) :
    plan.Shows listing desk.survey.1 ∧ desk.survey.2.evidence = desk.evidence ∧
      (∀ other : Desk plan, other.evidence.Lists listing → other.survey.1 = desk.survey.1) ∧
      ∀ commands, (desk.performAll commands).map (fun run => (run.1, run.2.evidence)) =
        desk.evidence.displayAll commands := by
  refine ⟨?_, rfl, fun other others => ?_, desk.performAll_eq_displayAll⟩
  · rw [lists.eq_entries, desk.survey_fst]
    exact Evidence.shows_surface nonneg
  · rw [desk.survey_fst, other.survey_fst, lists.unique others]

/-- The first cell of the yard as two cameras have seen it, and the second as one of them has. -/
def pairedEvidence : Evidence yard.evidencePlan :=
  let across : Stroke Float := ⟨⟨0.5, 0.1⟩, ⟨0, 0.25⟩, 3⟩
  let beside : Stroke Float := ⟨⟨1.5, 0.1⟩, ⟨0, 0.25⟩, 3⟩
  ((Evidence.none.addStroke "b" across).addStroke "a" across).addStroke "b" beside

/-- A grid with buffers that hold anything but zeros. -/
def usedDesk : Desk yard.evidencePlan :=
  ⟨pairedEvidence, ⟨.fill _ _ 7, .fill _ _ (0 / 0), .fill _ _ (1 / 0)⟩, .zero⟩

theorem usedDesk_shows_crossing :
    usedDesk.survey.1.value ⟨0, 0⟩ (by decide) =
        yard.evidencePlan.summed pairedEvidence.layers.entries ⟨0, 0⟩ (by decide) ∧
      0 < usedDesk.survey.1.value ⟨0, 0⟩ (by decide) ∧
      0 < yard.evidencePlan.summed pairedEvidence.layers.entries ⟨0, 1⟩ (by decide) ∧
      usedDesk.survey.1.value ⟨0, 1⟩ (by decide) = 0 := by
  have added : ∀ value : Float, 0 ≤ value → 0 ≤ value + yard.evidencePlan.increment := by
    intro value nonneg
    exact Binary64.add_nonneg nonneg (by decide +kernel)
  have nonneg : usedDesk.evidence.AllCells (0 ≤ ·) := by
    have start : (0 : Float) ≤ 0 := by decide +kernel
    apply Evidence.AllCells.addStroke _ start added
    apply Evidence.AllCells.addStroke _ start added
    exact Evidence.AllCells.addStroke Evidence.allCells_none start added _ _
  obtain ⟨shows, _⟩ := surveys_show_crossings pairedEvidence.lists_entries nonneg
  have sum := shows.sum ⟨0, 0⟩ (by decide) (by decide +kernel)
  have nothing := shows.nothing ⟨0, 1⟩ (by decide) (by decide +kernel) (by decide +kernel)
  refine ⟨sum, ?_, by decide +kernel, nothing⟩
  rw [sum]
  decide +kernel

end Sightline
