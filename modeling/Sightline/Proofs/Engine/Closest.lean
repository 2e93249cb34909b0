import Sightline.Proofs.Engine.Identity
import Sightline.Proofs.Tracker.Claiming

/-!
# The nearest target

Asked for the target nearest to a point, a tracker leaves out those that stand on the point and names the
nearest of the others, of equals the one that was set first.  The question changes nothing.
-/

set_option autoImplicit false

namespace Sightline

variable {α : Type} [Scalar α]

/-- How far a target is from a point, squared. -/
def Tracked.gapTo (target : Tracked α) (p : Point α) : α := (target.position - p).normSq

namespace Tracker

/-- Of all targets that do not stand on a point none is nearer to it than this one, and those before it
are farther off. -/
structure Closest (p : Point α) (targets : List (Tracked α)) (index : Nat) (target : Tracked α) :
    Prop where
  live : targets[index]? = some target
  apart : coincident ≤ target.gapTo p
  least : ∀ other ∈ targets, coincident ≤ other.gapTo p → target.gapTo p ≤ other.gapTo p
  first : ∀ (k : Nat) (other : Tracked α), k < index → targets[k]? = some other →
    coincident ≤ other.gapTo p → target.gapTo p < other.gapTo p

variable {p : Point α} {t : Tracker α} {target : Tracked α} {rating : Tracked α × α}

/-- What a target is rated by: itself and its distance, unless it stands on the point. -/
def gapOf (p : Point α) (target : Tracked α) : Option (Tracked α × α) :=
  if coincident ≤ target.gapTo p then some (target, target.gapTo p) else none

theorem nearerTo_eq_select (p : Point α) : nearerTo p = select (gapOf p) Prod.snd := by
  funext best target
  unfold nearerTo select gapOf
  by_cases apart : coincident ≤ target.gapTo p
  · rw [if_pos apart]
    refine (if_pos apart).trans ?_
    cases best with
    | none => rfl
    | some held => rfl
  · rw [if_neg apart]
    exact if_neg apart

theorem gapOf_eq_some :
    gapOf p target = some rating ↔ coincident ≤ target.gapTo p ∧ (target, target.gapTo p) = rating := by
  unfold gapOf
  split
  · rename_i apart
    simp [apart]
  · rename_i close
    simp [close]

theorem closest?_cases [LawfulScalar α] [OrderedScalar α]
    (ordered : ∀ gap : α, coincident ≤ gap → gap ≤ gap) (t : Tracker α) (p : Point α) :
    (t.closest? p = none ∧ ∀ target ∈ t.targets, ¬ coincident ≤ target.gapTo p) ∨
      ∃ index target, Closest p t.targets index target ∧
        t.closest? p = some (target.view, Scalar.sqrt (target.gapTo p)) := by
  have rated : ∀ target rating, gapOf p target = some rating → rating.2 ≤ rating.2 := by
    intro target rating rated
    obtain ⟨apart, rfl⟩ := gapOf_eq_some.1 rated
    exact ordered _ apart
  have selected := selected_foldl rated t.targets
  rw [← nearerTo_eq_select] at selected
  unfold closest?
  cases best : t.targets.foldl (nearerTo p) none with
  | none =>
      rw [best] at selected
      refine .inl ⟨rfl, fun target member apart => ?_⟩
      have rated := gapOf_eq_some.2 ⟨apart, rfl⟩
      rw [selected target member] at rated
      cases rated
  | some rating =>
      rw [best] at selected
      obtain ⟨index, target, found⟩ := selected
      obtain ⟨apart, rfl⟩ := gapOf_eq_some.1 found.rated
      refine .inr ⟨index, target, ⟨found.there, apart, ?_, ?_⟩, rfl⟩
      · intro other member apartToo
        obtain ⟨k, there⟩ := List.getElem?_of_mem member
        exact found.least k other _ there (gapOf_eq_some.2 ⟨apartToo, rfl⟩)
      · intro k other earlier there apartToo
        exact found.first k other _ earlier there (gapOf_eq_some.2 ⟨apartToo, rfl⟩)

/-- What is answered: nothing if all targets stand on the point or are at no distance at all, and else the
nearest of the others with its distance. -/
structure Finds (t : Tracker Float) (p : Point Float) (answer : Option (View Float × Float)) :
    Prop where
  none_iff : answer = none ↔ ∀ target ∈ t.targets,
    target.gapTo p < coincident ∨ ¬ Scalar.Ordered (target.gapTo p)
  nearest : ∀ view distance, answer = some (view, distance) →
    ∃ index target, Closest p t.targets index target ∧ view = target.view ∧
      distance = Scalar.sqrt (target.gapTo p)

theorem not_coincident_le {gap : Float} :
    ¬ coincident ≤ gap ↔ gap < coincident ∨ ¬ Scalar.Ordered gap := by
  have number : Scalar.Ordered (coincident : Float) := by decide +kernel
  constructor
  · intro notApart
    by_contra neither
    push Not at neither
    exact notApart (OrderedScalar.le_of_not_lt neither.2 number neither.1)
  · rintro (below | outside) apart
    · exact LawfulScalar.lt_irrefl _ (LawfulScalar.lt_of_lt_of_le below apart)
    · exact outside (Binary64.le_self_of_le apart)

theorem finds_closest? (t : Tracker Float) (p : Point Float) : Finds t p (t.closest? p) := by
  rcases closest?_cases (fun _ apart => Binary64.le_self_of_le apart) t p with
    ⟨nothing, close⟩ | ⟨index, target, closest, found⟩
  · rw [nothing]
    refine ⟨⟨fun _ target member => not_coincident_le.1 (close target member), fun _ => rfl⟩, ?_⟩
    intro view distance impossible
    cases impossible
  · rw [found]
    refine ⟨⟨fun impossible => ?_, fun close => ?_⟩, ?_⟩
    · cases impossible
    · exact absurd closest.apart
        (not_coincident_le.2 (close target (List.mem_of_getElem? closest.live)))
    · rintro view distance same
      cases same
      exact ⟨index, target, closest, rfl, rfl⟩

end Tracker

/-- Asked for the nearest target, a tracker answers it in every state, the earliest set of equals, and an
engine that is asked stays as it is: live targets stand in the order in which their ids were given out. -/
theorem nearest_target_is_found :
    (∀ (t : Tracker Float) (p : Point Float), Tracker.Finds t p (t.closest? p)) ∧
      (∀ (plan : TrackerPlan Float) (commands : List (TrackerCommand Float))
          (replies : List (TrackerReply Float)) (after : Lookout Float),
        Lookout.start.performAll plan commands = .ok (replies, after) →
          after.tracker.ids.Sublist (Ledger.total (replies.map (·.ledger))).issued) ∧
      ∀ (site : Site Float) (first : Engine site) (commands : List (Command Float))
          (run : Step site (List (Reply site))) (p : Point Float),
        Engine.create site = .ok first → first.performAll commands = .ok run →
          run.engine.watch.tracker.ids.Sublist (Ledger.total (run.result.map (·.ledger))).issued ∧
          run.engine.perform (.closest p) =
            .ok ⟨.closest (run.engine.watch.tracker.closest? p), run.engine, [], []⟩ := by
  refine ⟨Tracker.finds_closest?, fun plan commands replies after done => ?_,
    fun site first commands run p created done => ⟨?_, rfl⟩⟩
  · exact (Lookout.performAll_accounts Tracker.Accounts.empty done).ordered
  · exact (Engine.run_accounts created done).ordered

/-- Asked at the place of its second and third target, a tracker names the first; and two targets, and
one of an engine, stand in the order of their ids. -/
theorem queue_is_searched :
    (∃ index target, Tracker.Closest ⟨4, 0⟩ Tracker.queue.targets index target ∧ target.id = ⟨1⟩ ∧
      Tracker.queue.closest? ⟨4, 0⟩ = some (target.view, Scalar.sqrt (target.gapTo ⟨4, 0⟩))) ∧
    (∃ replies after,
      Lookout.start.performAll yard.trackerPlan (turnover.take 4) = .ok (replies, after) ∧
      after.tracker.ids = [⟨1⟩, ⟨2⟩] ∧
      after.tracker.ids.Sublist (Ledger.total (replies.map (·.ledger))).issued) ∧
    ∃ run, (Engine.start yard).performAll Engine.claimingRun = .ok run ∧
      run.engine.watch.tracker.ids = [⟨1⟩] ∧
      run.engine.watch.tracker.ids.Sublist (Ledger.total (run.result.map (·.ledger))).issued ∧
      run.engine.perform (.closest ⟨0, 0⟩) =
        .ok ⟨.closest (run.engine.watch.tracker.closest? ⟨0, 0⟩), run.engine, [], []⟩ := by
  have named : (Tracker.queue.closest? ⟨4, 0⟩).map (·.1.id) = some ⟨1⟩ := by decide +kernel
  have pair : yields (Lookout.start.performAll yard.trackerPlan (turnover.take 4))
      (fun (_, after) => after.tracker.ids = [⟨1⟩, ⟨2⟩]) = true := by decide +kernel
  have claimed : yields ((Engine.start yard).performAll Engine.claimingRun)
      (fun run => run.engine.watch.tracker.ids = [⟨1⟩]) = true := by decide +kernel
  obtain ⟨⟨view, distance⟩, found, id⟩ := Option.map_eq_some_iff.1 named
  obtain ⟨⟨replies, after⟩, done, both⟩ := yields_iff.1 pair
  obtain ⟨run, engineDone, one⟩ := yields_iff.1 claimed
  refine ⟨?_, ⟨replies, after, done, of_decide_eq_true both, ?_⟩,
    run, engineDone, of_decide_eq_true one, ?_⟩
  · obtain ⟨index, target, closest, rfl, rfl⟩ :=
      (nearest_target_is_found.1 Tracker.queue ⟨4, 0⟩).nearest view distance found
    exact ⟨index, target, closest, id, found⟩
  · exact nearest_target_is_found.2.1 yard.trackerPlan (turnover.take 4) replies after done
  · exact nearest_target_is_found.2.2 yard _ Engine.claimingRun run ⟨0, 0⟩ rfl engineDone

end Sightline
