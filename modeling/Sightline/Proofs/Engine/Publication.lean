import Sightline.Proofs.Engine.Requests

/-!
# Every change is published

Each ray that is let in and each tick publishes the targets as it leaves them, once; nothing else
publishes, and nothing else changes what is seen of a target.  So the snapshot that was published
last always shows the targets that are live.
-/

set_option autoImplicit false

namespace Sightline

variable {α : Type} [Scalar α]

/-- A command that was carried out, with its reply and the engine as it was left. -/
structure Passage {α : Type} [Scalar α] (site : Site α) where
  command : Command α
  reply : Reply site
  engine : Engine site

/-- The replies to what others get to see: a ray that was let in, by itself or by a motion report,
and a tick. -/
def Reply.isShown {site : Site α} : Reply site → Bool
  | .traced (.ok _) => true
  | .ticked _ => true
  | _ => false

def Passage.shown? {site : Site α} (passage : Passage site) : Option (Snapshot α) :=
  if passage.reply.isShown then some passage.engine.targets else none

namespace Engine

variable {site : Site α} {e first last : Engine site} {commands : List (Command α)}
  {run : Step site (List (Reply site))}

/-- What an engine passes through, command by command, as far as commands are carried out. -/
def passages (e : Engine site) : List (Command α) → List (Passage site)
  | [] => []
  | command :: later =>
    match e.perform command with
    | .error _ => []
    | .ok step => ⟨command, step.result, step.engine⟩ :: step.engine.passages later

theorem passages_cons {command : Command α} {later : List (Command α)} {step : Step site (Reply site)}
    (done : e.perform command = .ok step) :
    e.passages (command :: later) =
      ⟨command, step.result, step.engine⟩ :: step.engine.passages later := by
  rw [passages, done]

/-! ## One command -/

/-- A step publishes the targets that it leaves if it is shown.  If it is not, it publishes nothing,
and what is seen of the targets stays. -/
theorem perform_shows {command : Command α} {step : Step site (Reply site)}
    (done : e.perform command = .ok step) :
    step.published = (Passage.shown? ⟨command, step.result, step.engine⟩).toList ∧
      step.engine.targets =
        (Passage.shown? ⟨command, step.result, step.engine⟩).getD e.targets := by
  have effect := perform_effect done
  generalize command.deed site = deed at effect
  cases effect with
  | ray traced accepted same =>
      subst same
      cases accepted with
      | claimed _ _ _ result published | gathered _ _ _ result published =>
          simp [Passage.shown?, Reply.isShown, Step.map, result, published]
  | tick ticked does same =>
      subst same
      simp [Passage.shown?, Reply.isShown, Step.map, does.published]
  | wait later after same =>
      subst same
      exact ⟨rfl, rfl⟩
  | nothing unmoved noRay noTick silent =>
      have hidden : step.result.isShown = false := by
        cases reply : step.result with
        | traced outcome =>
            cases outcome with
            | error fault => rfl
            | ok taken => exact absurd reply (noRay taken)
        | ticked report => exact absurd reply (noTick report)
        | _ => rfl
      have same : step.engine.targets = e.targets := by
        rw [targets, unmoved.tracker, targets]
      simp [Passage.shown?, hidden, silent, same]

/-! ## Commands -/

theorem zip_eq_passages (done : e.performAll commands = .ok run) :
    commands.zip run.result =
      (e.passages commands).map fun passage => (passage.command, passage.reply) := by
  induction commands generalizing e run with
  | nil => rfl
  | cons command later ih =>
      obtain ⟨step, others, one, rest, rfl⟩ := performAll_cons_eq_ok.1 done
      rw [passages_cons one, List.map_cons, ← ih rest]
      rfl

theorem published_eq_shown (done : e.performAll commands = .ok run) :
    run.published = (e.passages commands).filterMap Passage.shown? := by
  induction commands generalizing e run with
  | nil =>
      cases done
      rfl
  | cons command later ih =>
      obtain ⟨step, others, one, rest, rfl⟩ := performAll_cons_eq_ok.1 done
      rw [passages_cons one, List.filterMap_cons, ← ih rest]
      simp only [Step.append, Step.alone, (perform_shows one).1]
      cases Passage.shown? ⟨command, step.result, step.engine⟩ with
      | none => rfl
      | some snapshot => rfl

/-- Nothing is seen of the targets that has not been published. -/
theorem targets_eq_last (done : e.performAll commands = .ok run) :
    run.engine.targets = run.published.getLast?.getD e.targets := by
  induction commands generalizing e run with
  | nil =>
      cases done
      rfl
  | cons command later ih =>
      obtain ⟨step, others, one, rest, rfl⟩ := performAll_cons_eq_ok.1 done
      have current : others.engine.targets = others.published.getLast?.getD step.engine.targets :=
        ih rest
      obtain ⟨published, seen⟩ := perform_shows one
      simp only [Step.append, Step.alone, List.getLast?_append, published, current, seen]
      cases others.published.getLast? with
      | some snapshot => rfl
      | none =>
          cases Passage.shown? ⟨command, step.result, step.engine⟩ with
          | none => rfl
          | some snapshot => rfl

/-! ## Requests -/

/-- What an engine has published by the time it has carried out commands. -/
structure Publishes (first : Engine site) (commands : List (Command α)) (last : Engine site)
    (published : List (Snapshot α)) : Prop where
  /-- All commands were carried out, one after the other, with the replies of the passages. -/
  carriedOut : ∃ run, first.performAll commands = .ok run ∧ run.engine = last ∧
    commands.zip run.result =
      (first.passages commands).map fun passage => (passage.command, passage.reply)
  /-- One snapshot for each passage that is shown, in their order: the targets right after it. -/
  shown : published = (first.passages commands).filterMap Passage.shown?
  /-- Wherever a part of the commands leads, the live targets are those of the last snapshot so far;
  before the first snapshot there are none. -/
  current : ∀ earlier later, commands = earlier ++ later →
    ∃ before, first.performAll earlier = .ok before ∧ before.published <+: published ∧
      before.engine.targets = before.published.getLast?.getD []

theorem Leads.publishes {published : List (Snapshot α)} (none : first.targets = [])
    (leads : first.Leads commands last published) : first.Publishes commands last published := by
  obtain ⟨run, done, rfl, rfl⟩ := leads
  refine ⟨⟨run, done, rfl, zip_eq_passages done⟩, published_eq_shown done, ?_⟩
  intro earlier later split
  subst split
  obtain ⟨before, after, begun, rest, rfl⟩ := performAll_append_eq_ok.1 done
  refine ⟨before, begun, List.prefix_append _ _, ?_⟩
  rw [← none]
  exact targets_eq_last begun

/-- Over all requests, the ticks of runs included: what is published shows each ray that was let in
and each tick once, in their order, and always shows last what is live. -/
theorem every_change_is_published {settings : Settings α} {installation : Installation α}
    {requests : List (Request α)} {served : Step site (List (List (List (Reply site))))}
    (made : Site.create settings installation = .ok site)
    (created : Engine.create site = .ok first) (done : first.serveAll requests = .ok served) :
    first.Publishes (requests.flatMap (·.commands settings)) served.engine served.published := by
  have follows := Site.follows_of_create made
  have positive : 0 < site.settings.spawnPeriod := follows.sameSettings ▸ follows.sound.period
  have start := create_eq_ok created
  subst start
  have leads := leads_of_serveAll positive done
  rw [follows.sameSettings] at leads
  exact leads.publishes rfl

/-- A target is set and claims a ray, a camera is reported that nobody mounted, and a run ticks
twice among three more commands. -/
def busyRequests : List (Request Float) :=
  [.perform claimingRun, .perform [.motion "z" 0, .advance ⟨6000000000⟩],
    .run briefTimeline (by simp [briefTimeline])]

/-- Four snapshots before the run and four of it: its first tick drops the target, its second sets
another. -/
theorem busyRequests_published : ∃ served, (start yard).serveAll busyRequests = .ok served ∧
    served.published.map (·.length) = [0, 0, 1, 1, 1, 0, 0, 1] ∧
    (start yard).Publishes (busyRequests.flatMap (·.commands yardSettings)) served.engine
      served.published := by
  have checked : yields ((start yard).serveAll busyRequests) (fun served =>
      served.published.map (·.length) = [0, 0, 1, 1, 1, 0, 0, 1]) = true := by
    decide +kernel
  obtain ⟨served, done, counted⟩ := yields_iff.1 checked
  exact ⟨served, done, of_decide_eq_true counted, every_change_is_published rfl rfl done⟩

end Engine

end Sightline
