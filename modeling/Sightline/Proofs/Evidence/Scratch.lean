import Sightline.Proofs.Evidence.Saliency
import Sightline.Proofs.Scalar.Counting

/-!
# Surveys in kept buffers

Three rasters are enough for a survey of any number of layers, and they can be kept from one survey to
the next: one for the mask of a single layer, one that counts the masks, and one for the sum.  What an
earlier survey has left in them does not show in a later one.
-/

set_option autoImplicit false

namespace Sightline

variable {α : Type} [Scalar α] {plan : EvidencePlan α}

structure Scratch (plan : EvidencePlan α) where
  masking : plan.Layer
  mask : plan.Layer
  sum : plan.Layer

namespace Scratch

def clear (scratch : Scratch plan) : Scratch plan :=
  { scratch with
    mask := scratch.mask.map fun _ => 0
    sum := scratch.sum.map fun _ => 0 }

/-- Writes the mask of a layer over the last one, and adds both the mask and the layer. -/
def gather (scratch : Scratch plan) (layer : plan.Layer) : Scratch plan :=
  let masking :=
    scratch.masking.zipWith (fun _ value => if plan.maskThreshold < value then 1 else 0) layer
  ⟨masking, scratch.mask.zipWith (· + ·) masking, scratch.sum.zipWith (· + ·) layer⟩

/-- Makes weights of the counts. -/
def settle (scratch : Scratch plan) : Scratch plan :=
  { scratch with mask := scratch.mask.map fun count => if 1 < count then 1 else 0 }

end Scratch

/-- A survey that works in buffers, and leaves them as they are then. -/
def Evidence.surveyIn (e : Evidence plan) (scratch : Scratch plan) (tally : Tally α) :
    (plan.Layer × Tally α) × Scratch plan :=
  if e.layers.entries.isEmpty then ((.fill _ _ 0, tally), scratch)
  else
    let gathered := e.layers.values.foldl Scratch.gather scratch.clear
    let gauged := tally.read .evidenceTotal (gathered.sum.fold (· + ·) 0)
    let left := gathered.settle
    ((left.sum.zipWith (· * ·) left.mask,
      gauged.read .evidencePeak (gathered.sum.fold Scalar.peakWith 0)), left)

/-! ## Counts -/

/-- A count as a sum of ones: exact up to one, and above one from there on. -/
inductive CountsTo : Nat → α → Prop
  | none : CountsTo 0 0
  | one : CountsTo 1 1
  | several {n : Nat} {a : α} (many : 1 < n) (above : 1 < a) : CountsTo n a

variable [CountingScalar α]

theorem CountsTo.pass {n : Nat} {a : α} (counts : CountsTo n a) : CountsTo n (a + 0) := by
  cases counts with
  | none =>
      rw [CountingScalar.zero_add_zero]
      exact .none
  | one =>
      rw [CountingScalar.one_add_zero]
      exact .one
  | several many above => exact .several many (CountingScalar.lt_add_zero above)

theorem CountsTo.next {n : Nat} {a : α} (counts : CountsTo n a) : CountsTo (n + 1) (a + 1) := by
  cases counts with
  | none =>
      rw [CountingScalar.zero_add_one]
      exact .one
  | one => exact .several Nat.one_lt_two CountingScalar.one_lt_two
  | several many above =>
      exact .several (Nat.lt_succ_of_lt many) (CountingScalar.lt_add_one above)

theorem CountsTo.one_lt_iff [LawfulScalar α] {n : Nat} {a : α} (counts : CountsTo n a) : 1 < a ↔ 1 < n := by
  cases counts with
  | none =>
      refine ⟨fun below => ?_, fun many => absurd many (by omega)⟩
      exact absurd (LawfulScalar.lt_trans below CountingScalar.zero_lt_one) (LawfulScalar.lt_irrefl _)
  | one =>
      exact ⟨fun above => absurd above (LawfulScalar.lt_irrefl _), fun many => absurd many (by omega)⟩
  | several many above => exact ⟨fun _ => many, fun _ => above⟩

namespace Evidence

/-- The buffers hold a sum, and a count in ones for every number of cameras. -/
structure Gathered (scratch : Scratch plan) (sum : plan.Layer)
    (support : Raster Nat plan.tiling.rows plan.tiling.columns) : Prop where
  sum : scratch.sum = sum
  mask : ∀ cell inside, CountsTo (support.value cell inside) (scratch.mask.value cell inside)

omit [CountingScalar α] in
/-- Nothing is left of what was in the buffers before. -/
theorem gathered_clear (scratch : Scratch plan) :
    Gathered scratch.clear (.fill _ _ 0) (.fill _ _ 0) := by
  refine ⟨Raster.ext_value fun cell inside => ?_, fun cell inside => ?_⟩
  · rw [Scratch.clear, Raster.value_map, Raster.value_fill]
  · rw [Scratch.clear, Raster.value_map, Raster.value_fill]
    exact .none

theorem Gathered.gather {scratch : Scratch plan} {sum : plan.Layer}
    {support : Raster Nat plan.tiling.rows plan.tiling.columns}
    (gathered : Gathered scratch sum support) (layer : plan.Layer) :
    Gathered (scratch.gather layer) (sum.zipWith (· + ·) layer)
      (support.zipWith (fun n value => if plan.maskThreshold < value then n + 1 else n) layer) := by
  refine ⟨congrArg (·.zipWith (· + ·) layer) gathered.sum, fun cell inside => ?_⟩
  rw [Scratch.gather, Raster.value_zipWith, Raster.value_zipWith, Raster.value_zipWith]
  by_cases above : plan.maskThreshold < layer.value cell inside
  · rw [if_pos above, if_pos above]
    exact (gathered.mask cell inside).next
  · rw [if_neg above, if_neg above]
    exact (gathered.mask cell inside).pass

theorem Gathered.foldl {scratch : Scratch plan} {sum : plan.Layer}
    {support : Raster Nat plan.tiling.rows plan.tiling.columns}
    (gathered : Gathered scratch sum support) (layers : List plan.Layer) :
    Gathered (layers.foldl Scratch.gather scratch)
      (layers.foldl (fun total layer => total.zipWith (· + ·) layer) sum)
      (layers.foldl
        (fun counts layer =>
          counts.zipWith (fun n value => if plan.maskThreshold < value then n + 1 else n) layer)
        support) := by
  induction layers generalizing scratch sum support with
  | nil => exact gathered
  | cons layer rest ih => exact ih (gathered.gather layer)

/-- A survey in buffers is the survey of the layers, whatever the buffers held before. -/
theorem surveyIn_fst [LawfulScalar α] (e : Evidence plan) (scratch : Scratch plan)
    (tally : Tally α) : (e.surveyIn scratch tally).1 = e.survey tally := by
  have gathered : Gathered (e.layers.values.foldl Scratch.gather scratch.clear) e.sum e.support :=
    (gathered_clear scratch).foldl e.layers.values
  unfold surveyIn survey
  split
  · rfl
  · simp only [gathered.sum, Scratch.settle]
    refine congrArg (Prod.mk · _) (Raster.ext_value fun cell inside => ?_)
    rw [masked, Raster.value_zipWith, Raster.value_zipWith, Raster.value_map, weight]
    simp only [(gathered.mask cell inside).one_lt_iff]

end Evidence

end Sightline
