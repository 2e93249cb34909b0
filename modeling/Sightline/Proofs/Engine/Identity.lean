import Sightline.Proofs.Engine.Factoring

/-!
# Ids over whole runs

However a tracker is used, by itself or by an engine, the ids that it gives out count up from
`g1`, each is live until it is reported gone, once, and none comes back.
-/

set_option autoImplicit false

namespace Sightline

variable {α : Type} [Scalar α]

namespace Ledger

variable {l later : Ledger} {live : List TargetId} {id : TargetId}

theorem Balances.not_live (books : l.Balances live) (gone : id ∈ l.gone) : id ∉ live := by
  have parted := books.settled.nodup_iff.1 books.unique
  rw [List.append_assoc] at parted
  exact fun stays => (List.nodup_append.1 parted).2.2 id stays id gone rfl

theorem Balances.not_live_later (books : (l ++ later).Balances live) (gone : id ∈ l.gone) :
    id ∉ live :=
  books.not_live (mem_gone_append.2 (.inl gone))

end Ledger

theorem Tracker.ids_snapshot (t : Tracker α) : t.snapshot.map (·.id) = t.ids := by
  simp only [snapshot, ids, List.map_map]
  rfl

/-! ## A tracker by itself -/

namespace Lookout

variable {plan : TrackerPlan α} {after : Lookout α} {commands : List (TrackerCommand α)}
  {replies : List (TrackerReply α)}

theorem run_balances (done : start.performAll plan commands = .ok (replies, after))
    (bounded : (Ledger.total (replies.map (·.ledger))).issued.length < 2 ^ 64) :
    (Ledger.total (replies.map (·.ledger))).Balances (after.tracker.snapshot.map (·.id)) := by
  rw [Tracker.ids_snapshot]
  exact (performAll_accounts Tracker.Accounts.empty done).balances bounded

structure KeepsIdentity (plan : TrackerPlan α) (commands : List (TrackerCommand α))
    (replies : List (TrackerReply α)) (after : Lookout α) : Prop where
  books : (Ledger.total (replies.map (·.ledger))).Balances (after.tracker.snapshot.map (·.id))
  /-- What an earlier part of the run reports gone is live no more. -/
  gone : ∀ earlier later, commands = earlier ++ later →
    ∃ before reached, start.performAll plan earlier = .ok (before, reached) ∧
      ∀ id ∈ (Ledger.total (before.map (·.ledger))).gone, id ∉ after.tracker.snapshot.map (·.id)
  merges : ∀ earlier later, commands = earlier ++ .merge :: later →
    ∃ before reached merge?, start.performAll plan earlier = .ok (before, reached) ∧
      replies[earlier.length]? = some (.merged merge?) ∧
      ∀ merge, merge? = some merge →
        merge.survivor ∈ reached.tracker.snapshot.map (·.id) ∧
          merge.removed ∈ reached.tracker.snapshot.map (·.id)

theorem keepsIdentity (done : start.performAll plan commands = .ok (replies, after))
    (bounded : (Ledger.total (replies.map (·.ledger))).issued.length < 2 ^ 64) :
    KeepsIdentity plan commands replies after := by
  have books := run_balances done bounded
  refine ⟨books, ?_, ?_⟩
  · intro earlier later split
    subst split
    obtain ⟨before, reached, others, first, _, rfl⟩ := performAll_append_eq_ok.1 done
    rw [List.map_append, Ledger.total_append] at books
    exact ⟨before, reached, first, fun id gone => books.not_live_later gone⟩
  · intro earlier later split
    subst split
    obtain ⟨before, reached, reply, next, first, one, replied⟩ := performAll_at done
    rw [perform_merge] at one
    cases one
    refine ⟨before, reached, _, first, replied, fun merge found => ?_⟩
    rw [Option.map_eq_some_iff] at found
    obtain ⟨⟨merge, tracker⟩, merged, rfl⟩ := found
    rw [Tracker.ids_snapshot]
    exact Tracker.merge_live merged

end Lookout

/-! ## An engine -/

namespace Engine

variable {site : Site α} {e first : Engine site} {commands : List (Command α)}
  {run : Step site (List (Reply site))}

theorem run_accounts (created : Engine.create site = .ok first)
    (done : first.performAll commands = .ok run) :
    run.engine.watch.tracker.Accounts (Ledger.total (run.result.map (·.ledger))) := by
  have start := create_eq_ok created
  subst start
  obtain ⟨script, replies, _, replayed, total⟩ := performAll_asked done
  rw [← total]
  exact Lookout.performAll_accounts Tracker.Accounts.empty replayed

theorem run_books (created : Engine.create site = .ok first)
    (done : first.performAll commands = .ok run)
    (bounded : (Ledger.total (run.result.map (·.ledger))).issued.length < 2 ^ 64) :
    (Ledger.total (run.result.map (·.ledger))).Balances (run.engine.targets.map (·.id)) := by
  rw [targets, Tracker.ids_snapshot]
  exact (run_accounts created done).balances bounded

theorem perform_published {command : Command α} {step : Step site (Reply site)}
    {snapshot : Snapshot α} (done : e.perform command = .ok step)
    (published : snapshot ∈ step.published) : snapshot = step.engine.targets := by
  have effect := perform_effect done
  generalize command.deed site = deed at effect
  cases effect with
  | ray traced accepted same =>
      subst same
      cases accepted with
      | claimed _ _ _ _ one | gathered _ _ _ _ one =>
          rw [Step.map, one] at published
          exact List.mem_singleton.1 published
  | tick ticked does same =>
      subst same
      rw [Step.map, does.published] at published
      exact List.mem_singleton.1 published
  | wait later after same =>
      subst same
      cases published
  | nothing _ _ _ silent =>
      rw [silent] at published
      cases published

/-- What a run publishes is the targets as they are after some part of it. -/
theorem published_reached {snapshot : Snapshot α} (done : e.performAll commands = .ok run)
    (published : snapshot ∈ run.published) :
    ∃ earlier before after, e.performAll earlier = .ok before ∧ run = before.append after ∧
      snapshot = before.engine.targets := by
  -- A snapshot of the first command is of the part that ends there; any other is of a part of the rest,
  -- with the first command put before it.
  induction commands generalizing e run with
  | nil =>
      cases done
      cases published
  | cons command rest ih =>
      obtain ⟨step, others, one, rest, rfl⟩ := performAll_cons_eq_ok.1 done
      rcases List.mem_append.1 published with now | later
      · refine ⟨[command], step.alone.append (step.engine.silently []), others, ?_, ?_, ?_⟩
        · exact performAll_cons_eq_ok.2 ⟨step, _, one, rfl, rfl⟩
        · simp [Step.append, silently]
        · exact perform_published one now
      · obtain ⟨earlier, before, after, start, rfl, rfl⟩ := ih rest later
        refine ⟨command :: earlier, step.alone.append before, after, ?_, ?_, rfl⟩
        · exact performAll_cons_eq_ok.2 ⟨step, before, one, start, rfl⟩
        · simp [Step.append]

theorem ids_spawning :
    e.spawning.2.watch.tracker.ids = e.watch.tracker.ids ++ e.spawning.2.result.toList := by
  rcases spawning_cases (e := e) with ⟨_, result, same⟩ | ⟨_, ⟨_, _, result, same⟩ | tried⟩
  · rw [result, same, Option.toList_none, List.append_nil]
  · rw [result, same, Option.toList_none, List.append_nil]
  · obtain ⟨verdict, spawned, result⟩ := tried
    rcases Tracker.spawn_eq_ok spawned with ⟨none, same⟩ | ⟨verdictEq, after⟩
    · rw [result, none, same, Option.toList_none, List.append_nil]
    · rw [result, verdictEq, after]
      simp [Tracker.ids, SpawnVerdict.id?]

structure KeepsIdentity (first : Engine site) (commands : List (Command α))
    (run : Step site (List (Reply site))) : Prop where
  books : (Ledger.total (run.result.map (·.ledger))).Balances (run.engine.targets.map (·.id))
  /-- What an earlier part of the run reports gone is live no more, and in no later snapshot. -/
  gone : ∀ earlier later, commands = earlier ++ later →
    ∃ before after, first.performAll earlier = .ok before ∧
      before.engine.performAll later = .ok after ∧ run = before.append after ∧
      ∀ id ∈ (Ledger.total (before.result.map (·.ledger))).gone,
        id ∉ run.engine.targets.map (·.id) ∧
          ∀ snapshot ∈ after.published, id ∉ snapshot.map (·.id)
  published : ∀ earlier command later, commands = earlier ++ command :: later →
    ∃ before answered, first.performAll earlier = .ok before ∧
      before.engine.perform command = .ok answered ∧
      ∀ snapshot ∈ answered.published, snapshot = answered.engine.targets
  /-- Both targets of a merge were live before it: before the tick, or spawned by it. -/
  merges : ∀ earlier later, commands = earlier ++ .tick :: later →
    ∃ before report, first.performAll earlier = .ok before ∧
      run.result[earlier.length]? = some (.ticked report) ∧
      ∀ merge, report.merged = some merge →
        merge.survivor ∈ before.engine.targets.map (·.id) ++ report.spawned.toList ∧
          merge.removed ∈ before.engine.targets.map (·.id) ++ report.spawned.toList

theorem gone_not_published {earlier later : List (Command α)}
    {before after : Step site (List (Reply site))} {snapshot : Snapshot α} {id : TargetId}
    (created : Engine.create site = .ok first) (start : first.performAll earlier = .ok before)
    (rest : before.engine.performAll later = .ok after)
    (bounded : (Ledger.total ((before.append after).result.map (·.ledger))).issued.length < 2 ^ 64)
    (gone : id ∈ (Ledger.total (before.result.map (·.ledger))).gone)
    (published : snapshot ∈ after.published) : id ∉ snapshot.map (·.id) := by
  obtain ⟨between, middle, last, reached, rfl, rfl⟩ := published_reached rest published
  have joined : first.performAll (earlier ++ between) = .ok (before.append middle) :=
    performAll_append_eq_ok.2 ⟨before, middle, start, reached, rfl⟩
  -- The books are taken up to the snapshot only, where fewer ids have been given out.
  have books := run_books created joined (by
    simp only [Step.append, List.map_append, Ledger.total_append, Ledger.issued_append,
      List.length_append] at bounded ⊢
    omega)
  simp only [Step.append, List.map_append, Ledger.total_append] at books
  exact books.not_live_later gone

theorem keepsIdentity (created : Engine.create site = .ok first)
    (done : first.performAll commands = .ok run)
    (bounded : (Ledger.total (run.result.map (·.ledger))).issued.length < 2 ^ 64) :
    first.KeepsIdentity commands run := by
  have books := run_books created done bounded
  refine ⟨books, ?_, ?_, ?_⟩
  · intro earlier later split
    subst split
    obtain ⟨before, after, start, rest, rfl⟩ := performAll_append_eq_ok.1 done
    refine ⟨before, after, start, rest, rfl, fun id gone => ⟨?_, fun snapshot published => ?_⟩⟩
    · simp only [Step.append, List.map_append, Ledger.total_append] at books
      exact books.not_live_later gone
    · exact gone_not_published created start rest bounded gone published
  · intro earlier command later split
    subst split
    obtain ⟨before, answered, start, one, _⟩ := performAll_at done
    exact ⟨before, answered, start, one, fun _ => perform_published one⟩
  · intro earlier later split
    subst split
    obtain ⟨before, answered, start, one, reply⟩ := performAll_at done
    cases perform_effect one with
    | tick ticked does same =>
        subst same
        refine ⟨before, ticked.result, start, reply, fun merge found => ?_⟩
        rw [does.merged, Option.map_eq_some_iff] at found
        obtain ⟨⟨merge, tracker⟩, merged, rfl⟩ := found
        rw [targets, Tracker.ids_snapshot, does.spawned, ← ids_spawning]
        exact Tracker.merge_live merged

end Engine

/-- Identity over every run, of a tracker by itself and of an engine, in which fewer than 2^64
targets are set. -/
theorem runs_keep_identity :
    (∀ (plan : TrackerPlan α) (commands : List (TrackerCommand α))
        (replies : List (TrackerReply α)) (after : Lookout α),
      Lookout.start.performAll plan commands = .ok (replies, after) →
        (Ledger.total (replies.map (·.ledger))).issued.length < 2 ^ 64 →
          Lookout.KeepsIdentity plan commands replies after) ∧
      ∀ (site : Site α) (first : Engine site) (commands : List (Command α))
          (run : Step site (List (Reply site))),
        Engine.create site = .ok first → first.performAll commands = .ok run →
          (Ledger.total (run.result.map (·.ledger))).issued.length < 2 ^ 64 →
            first.KeepsIdentity commands run :=
  ⟨fun _ _ _ _ done bounded => Lookout.keepsIdentity done bounded,
    fun _ _ _ _ created done bounded => Engine.keepsIdentity created done bounded⟩

/-- Two targets are set, a third is refused; the second is merged into the first, and that lapses. -/
def turnover : List (TrackerCommand Float) :=
  [.spawn ⟨0.5, 0.5⟩, .spawn ⟨0.5, 0.5⟩, .advance ⟨6000000000⟩, .spawn ⟨1.5, 0.5⟩, .merge, .expire]

theorem turnover_keeps_identity :
    (∃ replies after, Lookout.start.performAll yard.trackerPlan turnover = .ok (replies, after) ∧
      Ledger.total (replies.map (·.ledger)) = ⟨[⟨1⟩, ⟨2⟩], [⟨2⟩], [⟨1⟩]⟩ ∧
      Lookout.KeepsIdentity yard.trackerPlan turnover replies after) ∧
    ∃ run, (Engine.start yard).performAll Engine.claimingRun = .ok run ∧
      Ledger.total (run.result.map (·.ledger)) = ⟨[⟨1⟩], [], []⟩ ∧
      (Engine.start yard).KeepsIdentity Engine.claimingRun run := by
  have alone : yields (Lookout.start.performAll yard.trackerPlan turnover) (fun (replies, _) =>
      Ledger.total (replies.map (·.ledger)) = ⟨[⟨1⟩, ⟨2⟩], [⟨2⟩], [⟨1⟩]⟩) = true := by
    decide +kernel
  have engine : yields ((Engine.start yard).performAll Engine.claimingRun) (fun run =>
      Ledger.total (run.result.map (·.ledger)) = ⟨[⟨1⟩], [], []⟩) = true := by
    decide +kernel
  obtain ⟨⟨replies, after⟩, done, books⟩ := yields_iff.1 alone
  obtain ⟨run, engineDone, engineBooks⟩ := yields_iff.1 engine
  have total := of_decide_eq_true books
  have engineTotal := of_decide_eq_true engineBooks
  refine ⟨⟨replies, after, done, total, ?_⟩, run, engineDone, engineTotal, ?_⟩
  · exact runs_keep_identity.1 yard.trackerPlan turnover replies after done (by rw [total]; decide)
  · exact runs_keep_identity.2 yard _ Engine.claimingRun run rfl engineDone
      (by rw [engineTotal]; decide)

end Sightline
