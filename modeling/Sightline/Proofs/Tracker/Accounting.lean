import Sightline.Proofs.Tracker.Ledger

/-!
# Every rule keeps the books

Each rule of the tracker is one entry in the ledger; so a run of a tracker from its start has the
books of its replies.
-/

set_option autoImplicit false

namespace Sightline

variable {α : Type} [Scalar α]

theorem map_modify {β γ : Type} {f : β → γ} {g : β → β} {h : γ → γ}
    (same : ∀ b, f (g b) = h (f b)) (l : List β) (index : Nat) :
    (l.modify index g).map f = (l.map f).modify index h := by
  induction l generalizing index with
  | nil => simp
  | cons b rest ih =>
      cases index with
      | zero => simp [same]
      | succ index => simp [ih]

namespace Tracker

variable {t after : Tracker α} {plan : TrackerPlan α} {now : Instant} {l : Ledger}

omit [Scalar α] in
theorem ids_modify {index : Nat} {change : Tracked α → Tracked α}
    (sameId : ∀ target, (change target).id = target.id) :
    (t.targets.modify index change).map (·.id) = t.ids := by
  rw [map_modify (h := id) sameId, List.modify_id]
  rfl

theorem offer_accounts {ray : Segment α} {claimed : Bool} (accounts : t.Accounts l)
    (offered : t.offer plan now ray = .ok (claimed, after)) : after.Accounts l := by
  rcases offer_eq_ok offered with ⟨_, rfl, _⟩ | ⟨claim, _, _, rfl⟩
  · exact accounts
  · exact accounts.kept (ids_modify fun _ => rfl) rfl

theorem spawn_accounts {candidate : Point α} {verdict : SpawnVerdict} (accounts : t.Accounts l)
    (spawned : t.spawn plan now candidate = .ok (verdict, after)) :
    after.Accounts (l ++ .issue verdict.id?) := by
  rcases spawn_eq_ok spawned with ⟨none, rfl⟩ | ⟨rfl, rfl⟩
  · rw [none, Ledger.issue_none, Ledger.append_blank]
    exact accounts
  · exact accounts.issue (by simp [ids]) rfl

theorem merge_accounts (accounts : t.Accounts l) {merge : Merge α}
    (merged : t.merge? plan = some (merge, after)) :
    after.Accounts (l ++ .join (some merge)) := by
  obtain ⟨first, second, found, mergeEq, rfl⟩ := merge?_eq_some merged
  obtain ⟨_, secondAt, _, _⟩ := overlappingPair?_eq_some found
  have removedAt : t.ids[second.2]? = some merge.removed := by
    rw [ids, List.getElem?_map, secondAt, mergeEq]
    rfl
  have moved : (t.targets.modify first.2 (·.moveTo merge.position)).map (·.id) = t.ids :=
    ids_modify fun _ => rfl
  refine accounts.remove removedAt ?_ rfl
  rw [ids, ← List.eraseIdx_map, moved]

omit [Scalar α] in
theorem expire_accounts (accounts : t.Accounts l) {gone : List TargetId}
    (expired : t.expire now = .ok (gone, after)) : after.Accounts (l ++ .lapse gone) := by
  obtain ⟨rfl, rfl⟩ := expire_eq_ok expired
  exact accounts.drop _ rfl rfl

theorem merge_live {merge : Merge α} (merged : t.merge? plan = some (merge, after)) :
    merge.survivor ∈ t.ids ∧ merge.removed ∈ t.ids := by
  obtain ⟨first, second, found, rfl, _⟩ := merge?_eq_some merged
  obtain ⟨firstAt, secondAt, _, _⟩ := overlappingPair?_eq_some found
  exact ⟨List.mem_map_of_mem (List.mem_of_getElem? firstAt),
    List.mem_map_of_mem (List.mem_of_getElem? secondAt)⟩

end Tracker

def TrackerReply.ledger : TrackerReply α → Ledger
  | .spawned (.ok verdict) => .issue verdict.id?
  | .merged merge? => .join merge?
  | .expired ids => .lapse ids
  | .spawned (.error _) | .offered _ | .advanced => .blank

namespace Lookout

variable {plan : TrackerPlan α} {l after : Lookout α} {ledger : Ledger}

theorem perform_accounts {command : TrackerCommand α} {reply : TrackerReply α}
    (accounts : l.tracker.Accounts ledger) (done : l.perform plan command = .ok (reply, after)) :
    after.tracker.Accounts (ledger ++ reply.ledger) := by
  cases command with
  | offer ray =>
      simp only [perform] at done
      split at done
      · rename_i offered
        cases done
        rw [TrackerReply.ledger, Ledger.append_blank]
        exact Tracker.offer_accounts accounts offered
      · cases done
        rw [TrackerReply.ledger, Ledger.append_blank]
        exact accounts
  | spawn candidate =>
      simp only [perform] at done
      split at done
      · rename_i spawned
        cases done
        exact Tracker.spawn_accounts accounts spawned
      · cases done
        rw [TrackerReply.ledger, Ledger.append_blank]
        exact accounts
  | merge =>
      simp only [perform] at done
      split at done
      · rename_i merged
        cases done
        exact Tracker.merge_accounts accounts merged
      · cases done
        rw [TrackerReply.ledger, Ledger.join_none, Ledger.append_blank]
        exact accounts
  | expire =>
      simp only [perform, bind_eq_ok] at done
      obtain ⟨⟨gone, tracker⟩, expired, result⟩ := done
      cases result
      exact Tracker.expire_accounts accounts expired
  | advance time =>
      simp only [perform, bind_eq_ok] at done
      obtain ⟨now, _, result⟩ := done
      cases result
      rw [TrackerReply.ledger, Ledger.append_blank]
      exact accounts

theorem performAll_cons_eq_ok {command : TrackerCommand α} {later : List (TrackerCommand α)}
    {replies : List (TrackerReply α)} :
    l.performAll plan (command :: later) = .ok (replies, after) ↔
      ∃ reply next others, l.perform plan command = .ok (reply, next) ∧
        next.performAll plan later = .ok (others, after) ∧ replies = reply :: others := by
  simp only [performAll, bind_eq_ok, Prod.exists, Except.ok.injEq, Prod.mk.injEq]
  constructor
  · rintro ⟨reply, next, done, others, last, rest, rfl, rfl⟩
    exact ⟨reply, next, others, done, rest, rfl⟩
  · rintro ⟨reply, next, others, done, rest, rfl⟩
    exact ⟨reply, next, done, others, after, rest, rfl, rfl⟩

theorem performAll_append_eq_ok {earlier later : List (TrackerCommand α)}
    {replies : List (TrackerReply α)} :
    l.performAll plan (earlier ++ later) = .ok (replies, after) ↔
      ∃ first middle others, l.performAll plan earlier = .ok (first, middle) ∧
        middle.performAll plan later = .ok (others, after) ∧ replies = first ++ others := by
  induction earlier generalizing l replies with
  | nil => simp [performAll]
  | cons command rest ih =>
      simp only [List.cons_append, performAll_cons_eq_ok, ih]
      constructor
      · rintro ⟨reply, next, _, done, ⟨first, middle, others, start, rest, rfl⟩, rfl⟩
        exact ⟨reply :: first, middle, others, ⟨reply, next, first, done, start, rfl⟩, rest, rfl⟩
      · rintro ⟨_, middle, others, ⟨reply, next, first, done, start, rfl⟩, rest, rfl⟩
        exact ⟨reply, next, first ++ others, done, ⟨first, middle, others, start, rest, rfl⟩, rfl⟩

theorem length_replies {commands : List (TrackerCommand α)} {replies : List (TrackerReply α)}
    (done : l.performAll plan commands = .ok (replies, after)) :
    replies.length = commands.length := by
  induction commands generalizing l replies with
  | nil =>
      cases done
      rfl
  | cons command rest ih =>
      obtain ⟨reply, next, others, _, later, rfl⟩ := performAll_cons_eq_ok.1 done
      simp [ih later]

/-- The states before and after one command of a run, with its reply. -/
theorem performAll_at {earlier later : List (TrackerCommand α)}
    {command : TrackerCommand α} {replies : List (TrackerReply α)}
    (done : l.performAll plan (earlier ++ command :: later) = .ok (replies, after)) :
    ∃ before reached reply next, l.performAll plan earlier = .ok (before, reached) ∧
      reached.perform plan command = .ok (reply, next) ∧
      replies[earlier.length]? = some reply := by
  obtain ⟨before, reached, _, first, rest, rfl⟩ := performAll_append_eq_ok.1 done
  obtain ⟨reply, next, others, one, _, rfl⟩ := performAll_cons_eq_ok.1 rest
  refine ⟨before, reached, reply, next, first, one, ?_⟩
  rw [← length_replies first]
  simp

/-- A run adds the entries of its replies to the books. -/
theorem performAll_accounts {commands : List (TrackerCommand α)} {replies : List (TrackerReply α)}
    (accounts : l.tracker.Accounts ledger) (done : l.performAll plan commands = .ok (replies, after)) :
    after.tracker.Accounts (ledger ++ .total (replies.map (·.ledger))) := by
  induction commands generalizing l ledger replies with
  | nil =>
      cases done
      rw [List.map_nil, Ledger.total, Ledger.append_blank]
      exact accounts
  | cons command rest ih =>
      obtain ⟨reply, next, others, first, later, rfl⟩ := performAll_cons_eq_ok.1 done
      rw [List.map_cons, Ledger.total, ← Ledger.append_assoc]
      exact ih (perform_accounts accounts first) later

end Lookout

end Sightline
