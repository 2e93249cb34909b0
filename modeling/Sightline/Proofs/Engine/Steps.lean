import Sightline.Proofs.Engine.Effects
import Sightline.Scalar.Binary64

/-!
# Runs of commands, step by step

A run is taken apart at any of its commands: the part before it is a run, and so is the part after
it.
-/

set_option autoImplicit false

namespace Sightline

variable {α : Type} [Scalar α] {site : Site α}

namespace Step

def append (first later : Step site (List (Reply site))) : Step site (List (Reply site)) :=
  ⟨first.result ++ later.result, later.engine, first.notes ++ later.notes,
    first.published ++ later.published⟩

def alone (step : Step site (Reply site)) : Step site (List (Reply site)) :=
  { step with result := [step.result] }

end Step

namespace Engine

variable {e first : Engine site}

theorem create_eq_ok (created : Engine.create site = .ok first) : first = .start site := by
  simp only [create, Evidence.create, bind_eq_ok] at created
  obtain ⟨evidence, roomy, result⟩ := created
  split at roomy
  · cases roomy
    cases result
    rfl
  · cases roomy

theorem evidence_of_create (created : Engine.create site = .ok first) :
    Evidence.create site.evidencePlan = .ok first.evidence := by
  simp only [create, bind_eq_ok] at created
  obtain ⟨evidence, roomy, result⟩ := created
  cases result
  exact roomy

theorem performAll_cons_eq_ok {command : Command α} {later : List (Command α)}
    {run : Step site (List (Reply site))} :
    e.performAll (command :: later) = .ok run ↔
      ∃ step others, e.perform command = .ok step ∧ step.engine.performAll later = .ok others ∧
        run = step.alone.append others := by
  simp only [performAll, bind_eq_ok, Except.ok.injEq]
  constructor
  · rintro ⟨step, done, others, rest, rfl⟩
    exact ⟨step, others, done, rest, rfl⟩
  · rintro ⟨step, others, done, rest, rfl⟩
    exact ⟨step, done, others, rest, rfl⟩

theorem performAll_append_eq_ok {earlier later : List (Command α)}
    {run : Step site (List (Reply site))} :
    e.performAll (earlier ++ later) = .ok run ↔
      ∃ before after, e.performAll earlier = .ok before ∧
        before.engine.performAll later = .ok after ∧ run = before.append after := by
  induction earlier generalizing e run with
  | nil =>
      simp only [List.nil_append, performAll, Except.ok.injEq]
      constructor
      · intro done
        exact ⟨_, run, rfl, done, rfl⟩
      · rintro ⟨_, after, rfl, done, rfl⟩
        exact done
  | cons command rest ih =>
      simp only [List.cons_append, performAll_cons_eq_ok, ih]
      constructor
      · rintro ⟨step, _, done, ⟨before, after, start, later, rfl⟩, rfl⟩
        exact ⟨_, after, ⟨step, before, done, start, rfl⟩, later, by simp [Step.append]⟩
      · rintro ⟨_, after, ⟨step, before, done, start, rfl⟩, later, rfl⟩
        exact ⟨step, _, done, ⟨before, after, start, later, rfl⟩, by simp [Step.append]⟩

theorem length_result {commands : List (Command α)} {run : Step site (List (Reply site))}
    (done : e.performAll commands = .ok run) : run.result.length = commands.length := by
  induction commands generalizing e run with
  | nil =>
      cases done
      rfl
  | cons command rest ih =>
      obtain ⟨step, others, _, later, rfl⟩ := performAll_cons_eq_ok.1 done
      simp [Step.append, Step.alone, ih later, Nat.add_comm]

/-- The states before and after one command of a run, with its reply. -/
theorem performAll_at {earlier later : List (Command α)} {command : Command α}
    {run : Step site (List (Reply site))}
    (done : e.performAll (earlier ++ command :: later) = .ok run) :
    ∃ reached answered, e.performAll earlier = .ok reached ∧
      reached.engine.perform command = .ok answered ∧
      run.result[earlier.length]? = some answered.result := by
  obtain ⟨reached, others, before, rest, rfl⟩ := performAll_append_eq_ok.1 done
  obtain ⟨answered, after, one, _, rfl⟩ := performAll_cons_eq_ok.1 rest
  refine ⟨reached, answered, before, one, ?_⟩
  rw [← length_result before]
  simp [Step.append, Step.alone]

end Engine

/-! ## A yard of two cells

The site of the runs that are carried out step by step further on: two square metres side by side,
targets that merge as soon as they touch, and standard settings otherwise. -/

def yardSettings : Settings Float :=
  { Settings.standard with bounds := ⟨0, 0, 2, 1⟩, columns := 2, rows := 1, mergeSlack := 0 }

def yard : Site Float where
  settings := yardSettings
  installation := .empty
  evidencePlan :=
    { tiling := ⟨yardSettings.bounds, 2, 1, by decide +kernel, by decide +kernel, by decide, by decide⟩
      increment := yardSettings.increment
      retention := yardSettings.retention
      maskThreshold := yardSettings.maskThreshold }

def firstCellRay : Segment Float := ⟨⟨0.5, 0.1⟩, ⟨0.5, 0.9⟩⟩

def secondCellRay : Segment Float := ⟨⟨1.5, 0.1⟩, ⟨1.5, 0.9⟩⟩

end Sightline
