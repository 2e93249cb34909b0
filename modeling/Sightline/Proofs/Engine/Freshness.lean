import Sightline.Proofs.Engine.Identity

/-!
# Targets that a tick keeps

A tick merges before it drops what is stale, and a merge leaves the survivor's own time of refresh.
So a fresh target outlives a tick, by itself or in the survivor that it was merged into, except in
one case: it was merged into a survivor that was stale already, and then both are gone.
-/

set_option autoImplicit false

namespace Sightline

variable {α : Type} [Scalar α]

structure Tracked.SameLife (target kept : Tracked α) : Prop where
  id : kept.id = target.id
  refreshed : kept.refreshed = target.refreshed
  ttl : kept.ttl = target.ttl

omit [Scalar α] in
theorem Tracked.SameLife.isStale {target kept : Tracked α} (same : target.SameLife kept)
    (now : Instant) : kept.isStale now = target.isStale now := by
  rw [Target.isStale, Target.isStale, same.refreshed, same.ttl]

namespace Tracker

variable {t : Tracker α}

omit [Scalar α] in
theorem merge_keeps {first second : Tracked α × Nat} {position : Point α} {index : Nat}
    {target : Tracked α} (found : t.targets[index]? = some target) (other : index ≠ second.2) :
    ∃ kept ∈ (t.targets.modify first.2 (·.moveTo position)).eraseIdx second.2,
      target.SameLife kept := by
  by_cases moved : first.2 = index
  · refine ⟨target.moveTo position, ?_, ⟨rfl, rfl, rfl⟩⟩
    refine List.mem_eraseIdx_iff_getElem?.2 ⟨index, other, ?_⟩
    simp [moved, found]
  · refine ⟨target, ?_, ⟨rfl, rfl, rfl⟩⟩
    refine List.mem_eraseIdx_iff_getElem?.2 ⟨index, other, ?_⟩
    simp [moved, found]

/-- After at most one merge a target is there with its own life, unless it was removed; then the
survivor is. -/
theorem mergedOnce_keeps (plan : TrackerPlan α) {target : Tracked α} (live : target ∈ t.targets) :
    (∃ kept ∈ (t.mergedOnce plan).targets, target.SameLife kept) ∨
      ∃ merge survivor, (t.merge? plan).map (·.1) = some merge ∧ merge.removed = target.id ∧
        survivor ∈ t.targets ∧ survivor.id = merge.survivor ∧
        ∃ kept ∈ (t.mergedOnce plan).targets, survivor.SameLife kept := by
  unfold mergedOnce
  cases merged : t.merge? plan with
  | none => exact .inl ⟨target, live, ⟨rfl, rfl, rfl⟩⟩
  | some result =>
      obtain ⟨merge, after⟩ := result
      obtain ⟨first, second, found, mergeEq, rfl⟩ := merge?_eq_some merged
      obtain ⟨firstAt, secondAt, apart, _⟩ := overlappingPair?_eq_some found
      obtain ⟨index, found⟩ := List.getElem?_of_mem live
      by_cases removed : index = second.2
      · refine .inr ⟨merge, first.1, rfl, ?_, List.mem_of_getElem? firstAt, ?_, ?_⟩
        · rw [removed, secondAt] at found
          cases found
          rw [mergeEq]
        · rw [mergeEq]
        · exact merge_keeps firstAt apart
      · exact .inl (merge_keeps found removed)

end Tracker

namespace Engine

variable {site : Site α} {e : Engine site} {ticked : Step site (TickReport α)}

theorem Ticked.live_of_fresh (does : e.Ticked ticked) {kept : Tracked α}
    (there : kept ∈ (e.spawning.2.watch.tracker.mergedOnce site.trackerPlan).targets)
    (fresh : kept.isStale e.now = false) : kept.id ∈ ticked.engine.targets.map (·.id) := by
  obtain ⟨_, left⟩ := Tracker.expire_eq_ok does.expired
  rw [targets, Tracker.ids_snapshot, left, Tracker.ids]
  exact List.mem_map_of_mem (List.mem_filter.2 ⟨there, by simp [fresh]⟩)

theorem Ticked.expired_of_stale (does : e.Ticked ticked) {kept : Tracked α}
    (there : kept ∈ (e.spawning.2.watch.tracker.mergedOnce site.trackerPlan).targets)
    (stale : kept.isStale e.now = true) : kept.id ∈ ticked.result.expired := by
  obtain ⟨gone, _⟩ := Tracker.expire_eq_ok does.expired
  rw [gone]
  exact List.mem_map_of_mem (List.mem_filter.2 ⟨there, stale⟩)

/-- A target is live after a tick, or the one that the tick merged it into is. -/
def LivesOn (ticked : Step site (TickReport α)) (id : TargetId) : Prop :=
  id ∈ ticked.engine.targets.map (·.id) ∨
    ∃ merge, ticked.result.merged = some merge ∧ merge.removed = id ∧
      merge.survivor ∈ ticked.engine.targets.map (·.id)

/-- The tick removes a target in favour of one that has outlived its time to live. -/
def MergedIntoStale (e : Engine site) (report : TickReport α) (id : TargetId) : Prop :=
  ∃ merge survivor, report.merged = some merge ∧ merge.removed = id ∧
    survivor ∈ e.spawning.2.watch.tracker.targets ∧ survivor.id = merge.survivor ∧
    survivor.refreshed.nanos + survivor.ttl.nanos < e.now.nanos

theorem livesOn_of_fresh (does : e.Ticked ticked) {target : Tracked α}
    (live : target ∈ e.spawning.2.watch.tracker.targets) (fresh : target.isStale e.now = false)
    (spared : ¬ e.MergedIntoStale ticked.result target.id) : LivesOn ticked target.id := by
  rcases Tracker.mergedOnce_keeps site.trackerPlan live with
    ⟨kept, there, same⟩ | ⟨merge, survivor, merged, removed, there, survives, kept, keptThere, same⟩
  · refine .inl ?_
    rw [← same.id]
    exact does.live_of_fresh there (same.isStale e.now ▸ fresh)
  · rw [← does.merged] at merged
    have freshSurvivor : survivor.isStale e.now = false := by
      by_contra stale
      rw [Bool.not_eq_false, Target.isStale, decide_eq_true_iff] at stale
      exact spared ⟨merge, survivor, merged, removed, there, survives, stale⟩
    refine .inr ⟨merge, merged, removed, ?_⟩
    rw [← survives, ← same.id]
    exact does.live_of_fresh keptThere (same.isStale e.now ▸ freshSurvivor)

theorem tick_books {first : Engine site} {commands : List (Command α)}
    {run : Step site (List (Reply site))} (created : Engine.create site = .ok first)
    (done : first.performAll commands = .ok run) (ticking : run.engine.tick = .ok ticked)
    (bounded : (Ledger.total (run.result.map (·.ledger)) ++ ticked.result.ledger).issued.length <
      2 ^ 64) :
    (Ledger.total (run.result.map (·.ledger)) ++ ticked.result.ledger).Balances
      (ticked.engine.targets.map (·.id)) := by
  have performed : run.engine.perform .tick = .ok (ticked.map .ticked) := by
    rw [perform, ticking]
    rfl
  have one : run.engine.performAll [.tick] =
      .ok ((ticked.map .ticked).alone.append (ticked.engine.silently [])) :=
    performAll_cons_eq_ok.2 ⟨_, _, performed, rfl, rfl⟩
  have all := performAll_append_eq_ok.2 ⟨run, _, done, one, rfl⟩
  have total : Ledger.total ((run.append ((ticked.map .ticked).alone.append
      (ticked.engine.silently []))).result.map (·.ledger)) =
        Ledger.total (run.result.map (·.ledger)) ++ ticked.result.ledger := by
    simp [Step.append, Step.alone, Step.map, silently, Ledger.total_append, Ledger.total,
      Reply.ledger]
  rw [← total] at bounded ⊢
  exact run_books created all bounded

theorem not_livesOn_of_mergedIntoStale {ledger : Ledger} {id : TargetId}
    (does : e.Ticked ticked) (books : (ledger ++ ticked.result.ledger).Balances
      (ticked.engine.targets.map (·.id)))
    (lost : e.MergedIntoStale ticked.result id) : ¬ LivesOn ticked id := by
  obtain ⟨merge, survivor, merged, removed, there, survives, late⟩ := lost
  have joined : merge.removed ∈ (ledger ++ ticked.result.ledger).gone := by
    refine Ledger.mem_gone_append.2 (.inr ?_)
    simp [TickReport.ledger, Ledger.gone, Ledger.issue, Ledger.join, Ledger.lapse, merged]
  have stale : survivor.isStale e.now = true := decide_eq_true late
  rintro (live | ⟨other, mergedToo, _, survivorLive⟩)
  · exact books.not_live joined (removed ▸ live)
  -- The survivor keeps its own life through the merge, so the expiry finds it stale.
  · rw [merged] at mergedToo
    cases mergedToo
    rcases Tracker.mergedOnce_keeps site.trackerPlan there with
      ⟨kept, keptThere, same⟩ | ⟨again, _, mergedAgain, removedAgain, _⟩
    · have expired := does.expired_of_stale keptThere (same.isStale e.now ▸ stale)
      rw [same.id, survives] at expired
      refine books.not_live (Ledger.mem_gone_append.2 (.inr ?_)) survivorLive
      simp [TickReport.ledger, Ledger.gone, Ledger.issue, Ledger.join, Ledger.lapse, expired]
    · rw [← does.merged, merged] at mergedAgain
      cases mergedAgain
      rw [survives] at removedAgain
      exact books.not_live joined (removedAgain ▸ survivorLive)

/-- In every state of every run, a target that is fresh when a tick comes to merge outlives the
tick, itself or in its survivor, unless it is merged into a survivor that is stale; and then, as
long as the numbers have not wrapped, neither is left. -/
theorem fresh_target_outlives_tick {first : Engine site} {commands : List (Command α)}
    {run : Step site (List (Reply site))} {ticked : Step site (TickReport α)} {target : Tracked α}
    (created : Engine.create site = .ok first) (done : first.performAll commands = .ok run)
    (ticking : run.engine.tick = .ok ticked)
    (live : target ∈ run.engine.spawning.2.watch.tracker.targets)
    (fresh : run.engine.now.nanos ≤ target.refreshed.nanos + target.ttl.nanos) :
    (¬ run.engine.MergedIntoStale ticked.result target.id → LivesOn ticked target.id) ∧
      ((Ledger.total (run.result.map (·.ledger)) ++ ticked.result.ledger).issued.length < 2 ^ 64 →
        run.engine.MergedIntoStale ticked.result target.id → ¬ LivesOn ticked target.id) := by
  have does := tick_eq_ok ticking
  have notStale : target.isStale run.engine.now = false := by
    rw [Target.isStale, decide_eq_false_iff_not]
    omega
  refine ⟨livesOn_of_fresh does live notStale, fun bounded => ?_⟩
  exact not_livesOn_of_mergedIntoStale does (tick_books created done ticking bounded)

theorem claimingRun_target_outlives_tick : ∃ run ticked target,
    (start yard).performAll claimingRun = .ok run ∧ run.engine.tick = .ok ticked ∧
      target ∈ run.engine.spawning.2.watch.tracker.targets ∧
      run.engine.now.nanos ≤ target.refreshed.nanos + target.ttl.nanos ∧
      ticked.result.merged.isNone = true ∧ LivesOn ticked target.id := by
  have checked : yields ((start yard).performAll claimingRun) (fun run =>
      yields run.engine.tick fun ticked => ticked.result.merged.isNone &&
        run.engine.spawning.2.watch.tracker.targets.any fun target =>
          run.engine.now.nanos ≤ target.refreshed.nanos + target.ttl.nanos) = true := by
    decide +kernel
  obtain ⟨run, done, checked⟩ := yields_iff.1 checked
  obtain ⟨ticked, ticking, checked⟩ := yields_iff.1 checked
  obtain ⟨unmerged, checked⟩ := Bool.and_eq_true_iff.1 checked
  obtain ⟨target, live, fresh⟩ := List.any_eq_true.1 checked
  have outlives := fresh_target_outlives_tick rfl done ticking live (of_decide_eq_true fresh)
  refine ⟨run, ticked, target, done, ticking, live, of_decide_eq_true fresh, unmerged,
    outlives.1 ?_⟩
  rintro ⟨merge, _, merged, _⟩
  rw [merged] at unmerged
  cases unmerged

/-- A target is set in the first cell and left alone for longer than its time to live; then the
evidence for one in the second cell is gathered. -/
def strandingRun : List (Command Float) :=
  [.trace "a" firstCellRay, .trace "b" firstCellRay, .tick, .advance ⟨6000000000⟩,
    .trace "a" secondCellRay, .trace "b" secondCellRay]

/-- The next tick sets a second target, merges it into the stale first one, and drops that: the
target that it has just set does not outlive it. -/
theorem strandingRun_loses_fresh_target : ∃ run ticked target,
    Engine.create yard = .ok (start yard) ∧ (start yard).performAll strandingRun = .ok run ∧
      run.engine.tick = .ok ticked ∧
      target ∈ run.engine.spawning.2.watch.tracker.targets ∧
      run.engine.now.nanos ≤ target.refreshed.nanos + target.ttl.nanos ∧
      ¬ LivesOn ticked target.id := by
  have checked : yields ((start yard).performAll strandingRun) (fun run =>
      yields run.engine.tick fun ticked => ticked.engine.targets.isEmpty &&
        run.engine.spawning.2.watch.tracker.targets.any fun target =>
          run.engine.now.nanos ≤ target.refreshed.nanos + target.ttl.nanos) = true := by
    decide +kernel
  obtain ⟨run, done, checked⟩ := yields_iff.1 checked
  obtain ⟨ticked, ticking, checked⟩ := yields_iff.1 checked
  obtain ⟨none, checked⟩ := Bool.and_eq_true_iff.1 checked
  obtain ⟨target, live, fresh⟩ := List.any_eq_true.1 checked
  refine ⟨run, ticked, target, rfl, done, ticking, live, of_decide_eq_true fresh, ?_⟩
  rw [LivesOn, List.isEmpty_iff.1 none]
  simp

end Engine

end Sightline
