import Sightline.Proofs.Engine.Schedule

/-!
# Requests

From outside an engine is asked for two things: to carry out commands, and to run along a timeline.
Either comes to commands that are carried out one after the other; a run puts the ticks of its
schedule among those that arrive.
-/

set_option autoImplicit false

namespace Sightline

variable {α : Type}

namespace Errand

def commands : Errand α → List (Command α)
  | .arrival commands => commands
  | .tick => [.tick]

/-- The commands of errands, one errand after the other. -/
def inTurn (errands : List (Nat × Errand α)) : List (Command α) :=
  errands.flatMap fun errand => errand.2.commands

end Errand

/-- What an engine is asked for; the arrivals of a run are given in the order of their times. -/
inductive Request (α : Type) where
  | perform (commands : List (Command α))
  | run (timeline : Timeline α) (ordered : timeline.arrivals.Pairwise fun a b => a.1 ≤ b.1)

def Request.commands (settings : Settings α) : Request α → List (Command α)
  | .perform commands => commands
  | .run timeline _ =>
    Errand.inTurn (timeline.agenda settings) ++ Errand.inTurn (Errand.arrivals timeline.afterwards)

namespace Engine

variable [Scalar α] {site : Site α}

/-- Answers a request, arrival by arrival; the ticks that a run makes by itself have no reply. -/
def serve (e : Engine site) : Request α → Except Abort (Step site (List (List (Reply site))))
  | .perform commands => do .ok ((← e.performAll commands).map fun replies => [replies])
  | .run timeline _ => do
    let run ← e.run timeline
    .ok ⟨run.replies, run.engine, run.notes, run.published⟩

def serveAll (e : Engine site) :
    List (Request α) → Except Abort (Step site (List (List (List (Reply site)))))
  | [] => .ok (e.silently [])
  | request :: later => do
    let first ← e.serve request
    let others ← first.engine.serveAll later
    .ok ⟨first.result :: others.result, others.engine, first.notes ++ others.notes,
      first.published ++ others.published⟩

/-! ## Requests come to commands -/

/-- Commands that are carried out to their end lead to an engine and publish snapshots on the way. -/
def Leads (e : Engine site) (commands : List (Command α)) (last : Engine site)
    (published : List (Snapshot α)) : Prop :=
  ∃ run, e.performAll commands = .ok run ∧ run.engine = last ∧ run.published = published

variable {e middle last : Engine site}

theorem leads_nil : e.Leads [] e [] := ⟨_, rfl, rfl, rfl⟩

theorem Leads.append {earlier later : List (Command α)} {shown others : List (Snapshot α)}
    (start : e.Leads earlier middle shown) (rest : middle.Leads later last others) :
    e.Leads (earlier ++ later) last (shown ++ others) := by
  obtain ⟨before, begun, rfl, rfl⟩ := start
  obtain ⟨after, done, rfl, rfl⟩ := rest
  exact ⟨before.append after, performAll_append_eq_ok.2 ⟨before, after, begun, done, rfl⟩, rfl, rfl⟩

theorem leads_of_tick {step : Step site (TickReport α)} (done : e.tick = .ok step) :
    e.Leads [.tick] step.engine step.published := by
  have one : e.perform .tick = .ok (step.map .ticked) := by
    rw [perform, done]
    rfl
  refine ⟨_, performAll_cons_eq_ok.2 ⟨_, _, one, rfl, rfl⟩, rfl, ?_⟩
  exact List.append_nil _

theorem leads_of_carryOut {errands : List (Nat × Errand α)}
    {step : Step site (List (List (Reply site)))} (done : e.carryOut errands = .ok step) :
    e.Leads (Errand.inTurn errands) step.engine step.published := by
  induction errands generalizing e step with
  | nil =>
      cases done
      exact leads_nil
  | cons errand later ih =>
      obtain ⟨time, errand⟩ := errand
      cases errand with
      | arrival commands =>
          simp only [carryOut, bind_eq_ok] at done
          obtain ⟨first, begun, others, rest, result⟩ := done
          cases result
          exact Leads.append ⟨first, begun, rfl, rfl⟩ (ih rest)
      | tick =>
          simp only [carryOut, bind_eq_ok] at done
          obtain ⟨first, ticked, others, rest, result⟩ := done
          cases result
          exact (leads_of_tick ticked).append (ih rest)

theorem leads_of_serve {request : Request α} {step : Step site (List (List (Reply site)))}
    (positive : 0 < site.settings.spawnPeriod) (done : e.serve request = .ok step) :
    e.Leads (request.commands site.settings) step.engine step.published := by
  cases request with
  | perform commands =>
      simp only [serve, bind_eq_ok] at done
      obtain ⟨run, carried, result⟩ := done
      cases result
      exact ⟨run, carried, rfl, rfl⟩
  | run timeline ordered =>
      simp only [serve, bind_eq_ok, run_eq_runBySchedule positive ordered, runBySchedule] at done
      obtain ⟨run, ⟨before, errands, after, arrivals, scheduled⟩, result⟩ := done
      cases scheduled
      cases result
      exact (leads_of_carryOut errands).append (leads_of_carryOut arrivals)

theorem leads_of_serveAll {requests : List (Request α)}
    {step : Step site (List (List (List (Reply site))))}
    (positive : 0 < site.settings.spawnPeriod) (done : e.serveAll requests = .ok step) :
    e.Leads (requests.flatMap (·.commands site.settings)) step.engine step.published := by
  induction requests generalizing e step with
  | nil =>
      cases done
      exact leads_nil
  | cons request later ih =>
      simp only [serveAll, bind_eq_ok] at done
      obtain ⟨first, one, others, rest, result⟩ := done
      cases result
      exact (leads_of_serve positive one).append (ih rest)

end Engine

end Sightline
