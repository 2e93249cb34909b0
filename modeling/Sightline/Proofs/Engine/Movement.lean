import Sightline.Proofs.Engine.Identity
import Sightline.Proofs.Raster.Scan
import Sightline.Proofs.Tracker.Movement

/-!
# Where targets go in a run

Targets are set at centres of cells and go where rays and merges take them.  A kind of places that has
all centres, and that no ray of a run and no merge leaves, has all live and all published targets.
-/

set_option autoImplicit false

namespace Sightline

variable {α : Type} [Scalar α]

def View.place {α : Type} (view : View α) : Point α := ⟨view.x, view.y⟩

variable {kind : Point α → Prop}

/-- All targets in a snapshot are at places of a kind. -/
def Snapshot.All (kind : Point α → Prop) (snapshot : Snapshot α) : Prop :=
  ∀ view ∈ snapshot, kind view.place

theorem Tracker.All.snapshot {t : Tracker α} (all : t.All kind) :
    Snapshot.All kind t.snapshot := by
  intro view shown
  obtain ⟨target, live, rfl⟩ := List.mem_map.1 shown
  exact all target live

/-- Neither setting targets nor merging them leaves places of a kind. -/
structure Site.Confines (site : Site α) (kind : Point α → Prop) : Prop where
  centers : ∀ cell, Raster.Holds site.evidencePlan.tiling.rows site.evidencePlan.tiling.columns cell →
    kind (site.evidencePlan.tiling.centerOf cell)
  middles : ∀ p q, kind p → kind q → kind ((p + q).scale 0.5)

namespace Engine

variable [LawfulScalar α] {site : Site α} {e : Engine site} {commands : List (Command α)}
  {run : Step site (List (Reply site))}

theorem all_spawning (confines : site.Confines kind) (all : e.watch.tracker.All kind) :
    e.spawning.2.watch.tracker.All kind := by
  rcases spawning_cases (e := e) with ⟨_, _, same⟩ | ⟨_, ⟨_, _, _, same⟩ | ⟨_, spawned, _⟩⟩
  · exact same ▸ all
  · exact same ▸ all
  · refine all.spawn (confines.centers _ ?_) spawned
    exact Evidence.holds_peak _ site.evidencePlan.tiling.rows_pos
      site.evidencePlan.tiling.columns_pos

omit [LawfulScalar α] in
theorem all_mergedOnce {t : Tracker α} (confines : site.Confines kind) (all : t.All kind) :
    (t.mergedOnce site.trackerPlan).All kind := by
  unfold Tracker.mergedOnce
  cases merged : t.merge? site.trackerPlan with
  | none => exact all
  | some result => exact all.merge confines.middles merged

theorem all_perform {command : Command α} {step : Step site (Reply site)}
    (confines : site.Confines kind)
    (leads : ∀ ray, command.Brings site ray → ray.LeadsWithin kind site.trackerPlan.sensitivity)
    (all : e.watch.tracker.All kind) (done : e.perform command = .ok step) :
    step.engine.watch.tracker.All kind := by
  have effect := perform_effect done
  simp only [Command.brings_iff] at leads
  generalize command.deed site = deed at effect leads
  cases effect with
  | ray traced accepted same =>
      subst same
      cases accepted with
      | claimed offered _ _ _ _ | gathered offered _ _ _ _ =>
          exact all.offer (leads _ ⟨_, rfl⟩) offered
  | tick ticked does same =>
      subst same
      exact (all_mergedOnce confines (all_spawning confines all)).expire does.expired
  | wait later after same =>
      subst same
      exact all
  | nothing unmoved _ _ _ => exact unmoved.tracker ▸ all

theorem all_performAll (confines : site.Confines kind)
    (leads : ∀ command ∈ commands, ∀ ray, command.Brings site ray →
      ray.LeadsWithin kind site.trackerPlan.sensitivity)
    (all : e.watch.tracker.All kind) (done : e.performAll commands = .ok run) :
    Snapshot.All kind run.engine.targets ∧
      ∀ snapshot ∈ run.published, Snapshot.All kind snapshot := by
  induction commands generalizing e run with
  | nil =>
      cases done
      exact ⟨all.snapshot, nofun⟩
  | cons command rest ih =>
      obtain ⟨step, others, one, later, rfl⟩ := performAll_cons_eq_ok.1 done
      have still := all_perform confines (leads command List.mem_cons_self) all one
      obtain ⟨last, published⟩ :=
        ih (fun other member => leads other (List.mem_cons_of_mem _ member)) still later
      refine ⟨last, ?_⟩
      intro snapshot member
      rcases List.mem_append.1 member with now | then'
      · rw [perform_published one now]
        exact still.snapshot
      · exact published snapshot then'

end Engine

end Sightline
