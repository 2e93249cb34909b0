import Sightline.Engine.Run
import Sightline.Proofs.Engine.Steps
import Sightline.Proofs.Evidence.Scratch

/-!
# Queries do not interfere

A query answers from the state and sets three gauges at most, which nothing but the tally shows.  So
an engine and its copy without these gauges answer every command alike, and queries may be left out
of a run, or put into it, without a trace in any other step.
-/

set_option autoImplicit false

namespace Sightline

/-- What is the same to two views fails alike, or succeeds with results that look alike. -/
theorem alike_of_map_eq {ε β γ δ : Type} {view : β → δ} {sight : γ → δ} {x : Except ε β}
    {y : Except ε γ} (same : x.map view = y.map sight) :
    (∃ error, x = .error error ∧ y = .error error) ∨
      ∃ first second, x = .ok first ∧ y = .ok second ∧ view first = sight second := by
  cases x with
  | error error =>
      cases y with
      | error other =>
          cases same
          exact .inl ⟨error, rfl, rfl⟩
      | ok second => cases same
  | ok first =>
      cases y with
      | error other => cases same
      | ok second => exact .inr ⟨first, second, rfl, rfl, Except.ok.inj same⟩

variable {α : Type} [Scalar α]

/-! ## Without the gauges of surveys -/

namespace Tally

/-- The tally without the gauges that a survey sets. -/
def unsurveyed (t : Tally α) : Tally α :=
  { t with focusValue := 0, evidenceTotal := 0, evidencePeak := 0 }

@[simp] theorem unsurveyed_count (t : Tally α) (counter : Counter) :
    (t.count counter).unsurveyed = t.unsurveyed.count counter := by
  cases counter <;> rfl

theorem unsurveyed_read (t : Tally α) {gauge : Gauge} (value : α) (other : gauge ≠ .liveTargets) :
    (t.read gauge value).unsurveyed = t.unsurveyed := by
  cases gauge <;> first | rfl | exact absurd rfl other

end Tally

namespace Evidence

variable {plan : EvidencePlan α}

theorem unsurveyed_survey (e : Evidence plan) (tally : Tally α) :
    (e.survey tally).2.unsurveyed = tally.unsurveyed := by
  unfold survey
  split
  · rfl
  · exact (Tally.unsurveyed_read _ _ (by decide)).trans (Tally.unsurveyed_read _ _ (by decide))

theorem unsurveyed_focus (e : Evidence plan) (tally : Tally α) :
    (e.focus tally).2.unsurveyed = tally.unsurveyed :=
  (Tally.unsurveyed_read _ _ (by decide)).trans (e.unsurveyed_survey tally)

theorem heatmap_fst (e : Evidence plan) (tally : Tally α) :
    (e.heatmap tally).1 = shade e.surface := by
  simp only [heatmap, survey_fst]

end Evidence

namespace Watch

variable {w : Watch α} {plan : TrackerPlan α} {now : Instant}

def unsurveyed (w : Watch α) : Watch α := { w with tally := w.tally.unsurveyed }

@[simp] theorem tracker_unsurveyed : w.unsurveyed.tracker = w.tracker := rfl

@[simp] theorem unsurveyed_count (counter : Counter) :
    (w.count counter).unsurveyed = w.unsurveyed.count counter :=
  congrArg (Watch.mk w.tracker) (w.tally.unsurveyed_count counter)

@[simp] theorem unsurveyed_gauge (tracker : Tracker α) :
    (w.gauge tracker).unsurveyed = w.unsurveyed.gauge tracker := rfl

theorem unsurveyed_foldl_count {β : Type} (counter : Counter) (items : List β) :
    (items.foldl (fun counted _ => counted.count counter) w).unsurveyed =
      items.foldl (fun counted _ => counted.count counter) w.unsurveyed := by
  induction items generalizing w with
  | nil => rfl
  | cons item rest ih => rw [List.foldl_cons, ih, unsurveyed_count, List.foldl_cons]

end Watch

def Watched.unsurveyed {β : Type} (watched : Watched α β) : Watched α β :=
  { watched with watch := watched.watch.unsurveyed }

namespace Watch

variable {w : Watch α} {plan : TrackerPlan α} {now : Instant}

theorem merge_unsurveyed : w.unsurveyed.merge plan = (w.merge plan).unsurveyed := by
  unfold merge
  rw [tracker_unsurveyed]
  cases w.tracker.merge? plan with
  | none => rfl
  | some merged => simp [Watched.unsurveyed]

theorem expire_unsurveyed :
    w.unsurveyed.expire now = (w.expire now).map Watched.unsurveyed := by
  unfold expire
  rw [tracker_unsurveyed]
  cases w.tracker.expire now with
  | error abort => rfl
  | ok sifted => simp [bind, Except.bind, Except.map, Watched.unsurveyed, unsurveyed_foldl_count]

theorem spawn_unsurveyed {candidate : Point α} :
    w.unsurveyed.spawn plan now candidate =
      (w.spawn plan now candidate).map Watched.unsurveyed := by
  unfold spawn
  rw [tracker_unsurveyed]
  cases w.tracker.spawn plan now candidate with
  | error fault => rfl
  | ok tried =>
      obtain ⟨verdict, tracker⟩ := tried
      cases verdict <;> simp [bind, Except.bind, Except.map, Watched.unsurveyed]

theorem offer_unsurveyed {ray : Segment α} :
    w.unsurveyed.offer plan now ray =
      (w.offer plan now ray).map fun offered => (offered.1, offered.2.unsurveyed) := by
  unfold offer
  rw [tracker_unsurveyed]
  cases w.tracker.offer plan now ray with
  | error fault => rfl
  | ok offered => rfl

end Watch

variable {site : Site α}

def Engine.unsurveyed (e : Engine site) : Engine site := { e with watch := e.watch.unsurveyed }

def Reply.unsurveyed : Reply site → Reply site
  | .tally shown => .tally shown.unsurveyed
  | reply => reply

namespace Step

def unsurveyed {β : Type} (step : Step site β) : Step site β :=
  { step with engine := step.engine.unsurveyed }

/-- A step as it shows apart from the gauges of surveys. -/
def plain (step : Step site (Reply site)) : Step site (Reply site) :=
  (step.map Reply.unsurveyed).unsurveyed

end Step

namespace Engine

variable {e f : Engine site}

theorem count_unsurveyed (counter : Counter) :
    e.unsurveyed.count counter = (e.count counter).unsurveyed := by
  simp [count, unsurveyed]

theorem silently_unsurveyed {β : Type} (result : β) :
    e.unsurveyed.silently result = (e.silently result).unsurveyed := rfl

theorem publishing_unsurveyed {β : Type} (result : β) (notes : List (Note α)) :
    e.unsurveyed.publishing result notes = (e.publishing result notes).unsurveyed := rfl

/-! ## Steps -/

theorem accept_unsurveyed {camera : String} {ray : Segment α} :
    e.unsurveyed.accept camera ray = (e.accept camera ray).map Step.unsurveyed := by
  have asked : e.unsurveyed.watch.offer site.trackerPlan e.unsurveyed.now ray =
      (e.watch.offer site.trackerPlan e.now ray).map fun offered =>
        (offered.1, offered.2.unsurveyed) := Watch.offer_unsurveyed
  unfold accept
  rw [asked]
  cases e.watch.offer site.trackerPlan e.now ray with
  | error fault => rfl
  | ok offered =>
      obtain ⟨claimed, watch⟩ := offered
      cases claimed with
      | true =>
          change Except.ok (({ e with watch := watch }.unsurveyed.count .rayClaimed).publishing _ _) = _
          rw [count_unsurveyed, publishing_unsurveyed]
          rfl
      | false =>
          change (e.evidence.trace camera ray >>= _) = (e.evidence.trace camera ray >>= _).map _
          cases e.evidence.trace camera ray with
          | error abort => rfl
          | ok traced =>
              cases traced with
              | error fault =>
                  change Except.ok (({ e with watch := watch }.unsurveyed.count .rayGathered).silently _) = _
                  rw [count_unsurveyed, silently_unsurveyed]
                  rfl
              | ok evidence =>
                  change Except.ok (({ e with watch := watch, evidence := evidence }.unsurveyed.count
                    .rayGathered).publishing _ _) = _
                  rw [count_unsurveyed, publishing_unsurveyed]
                  rfl

theorem trace_unsurveyed {camera : String} {ray : Segment α} :
    e.unsurveyed.trace camera ray = (e.trace camera ray).map Step.unsurveyed := by
  unfold trace
  split
  · simp [Except.map, count, Step.unsurveyed, unsurveyed]
  · exact accept_unsurveyed

theorem motion_unsurveyed {camera : String} {angle : α} :
    e.unsurveyed.motion camera angle = (e.motion camera angle).map Step.unsurveyed := by
  unfold motion
  split
  · exact trace_unsurveyed
  · rfl
  · simp [Except.map, count, silently, Step.unsurveyed, unsurveyed]

theorem spawnAt_unsurveyed {w : Watch α} {now : Instant} {focus : Focus α} :
    spawnAt w.unsurveyed site now focus = (spawnAt w site now focus).unsurveyed := by
  unfold spawnAt
  split
  · rw [Watch.spawn_unsurveyed]
    cases w.spawn site.trackerPlan now focus.position with
    | error fault => rfl
    | ok spawned => rfl
  · rfl

/-- The first part of a tick as it is for an engine that was not surveyed; its own survey shows in
the gauges only. -/
theorem spawning_snd_unsurveyed :
    e.spawning.2.unsurveyed =
      spawnAt (e.watch.unsurveyed.count .ticks) site e.now e.evidence.brightest := by
  have watch : (⟨(e.watch.count .ticks).tracker,
      (e.evidence.focus (e.watch.count .ticks).tally).2⟩ : Watch α).unsurveyed =
        e.watch.unsurveyed.count .ticks := by
    rw [← Watch.unsurveyed_count, Watch.unsurveyed, Evidence.unsurveyed_focus]
    rfl
  rw [← watch, spawnAt_unsurveyed, ← Evidence.focus_fst]
  rfl

/-- A tick does not read what was gauged before it. -/
theorem tick_unsurveyed :
    e.unsurveyed.tick.map Step.unsurveyed = e.tick.map Step.unsurveyed := by
  have whole : ∀ e : Engine site, e.tick.map Step.unsurveyed = (do
      let spawned := e.spawning.2.unsurveyed
      let merged := spawned.watch.merge site.trackerPlan
      let expired ← merged.watch.expire e.now
      .ok (({ e with evidence := e.evidence.decay, watch := expired.watch } : Engine site).publishing
        ⟨e.evidence.brightest, spawned.result, merged.result, expired.result⟩
        (spawned.notes ++ merged.notes ++ expired.notes))) := by
    intro e
    have merged : e.spawning.2.unsurveyed.watch.merge site.trackerPlan =
        (e.spawning.2.watch.merge site.trackerPlan).unsurveyed := Watch.merge_unsurveyed
    have expired : (e.spawning.2.watch.merge site.trackerPlan).unsurveyed.watch.expire e.now =
        ((e.spawning.2.watch.merge site.trackerPlan).watch.expire e.now).map Watched.unsurveyed :=
      Watch.expire_unsurveyed
    simp only [merged, expired, tick, spawning_fst]
    cases (e.spawning.2.watch.merge site.trackerPlan).watch.expire e.now with
    | error abort => rfl
    | ok expired => rfl
  rw [whole, whole, spawning_snd_unsurveyed, spawning_snd_unsurveyed]
  rfl

theorem focus_shows :
    e.focus.1 = e.evidence.brightest ∧ e.focus.2.unsurveyed = e.unsurveyed := by
  refine ⟨e.evidence.focus_fst _, ?_⟩
  change e.unsurveyed.withTally (e.evidence.focus e.tally).2.unsurveyed = e.unsurveyed
  rw [Evidence.unsurveyed_focus]
  rfl

theorem heatmap_shows :
    e.heatmap.1 = Evidence.shade e.evidence.surface ∧ e.heatmap.2.unsurveyed = e.unsurveyed := by
  refine ⟨e.evidence.heatmap_fst _, ?_⟩
  change e.unsurveyed.withTally (e.evidence.survey e.tally).2.unsurveyed = e.unsurveyed
  rw [Evidence.unsurveyed_survey]
  rfl

theorem perform_unsurveyed (command : Command α) :
    (e.unsurveyed.perform command).map Step.plain = (e.perform command).map Step.plain := by
  cases command with
  | trace camera ray =>
      simp only [perform, trace_unsurveyed]
      cases e.trace camera ray <;> rfl
  | motion camera angle =>
      simp only [perform, motion_unsurveyed]
      cases e.motion camera angle <;> rfl
  | tick =>
      have shown : ∀ e : Engine site, (e.perform .tick).map Step.plain =
          (e.tick.map Step.unsurveyed).map (Step.map .ticked) := by
        intro e
        simp only [perform]
        cases e.tick <;> rfl
      rw [shown, shown, tick_unsurveyed]
  | advance time =>
      simp only [perform, advance]
      change ((e.now.after time >>= _) >>= _).map _ = _
      cases e.now.after time <;> rfl
  | focus =>
      have shown : ∀ e : Engine site, (e.perform .focus).map Step.plain =
          .ok (e.unsurveyed.silently (.focus e.evidence.brightest)) := by
        intro e
        obtain ⟨focus, after⟩ := focus_shows (e := e)
        rw [← focus, ← after]
        rfl
      rw [shown, shown]
      rfl
  | heatmap =>
      have shown : ∀ e : Engine site, (e.perform .heatmap).map Step.plain =
          .ok (e.unsurveyed.silently (.heatmap (Evidence.shade e.evidence.surface))) := by
        intro e
        obtain ⟨heatmap, after⟩ := heatmap_shows (e := e)
        rw [← heatmap, ← after]
        rfl
      rw [shown, shown]
      rfl
  | closest | tally | settings => rfl

/-- Engines that differ in the gauges of surveys only take every step alike. -/
theorem perform_alike (alike : e.unsurveyed = f.unsurveyed) (command : Command α) :
    (e.perform command).map Step.plain = (f.perform command).map Step.plain := by
  rw [← perform_unsurveyed, alike, perform_unsurveyed]

end Engine

/-! ## Queries -/

def Command.isQuery : Command α → Bool
  | .focus | .heatmap | .closest _ | .tally | .settings => true
  | .trace .. | .motion .. | .tick | .advance _ => false

/-- A query always answers, and says nothing to anybody else. -/
theorem Engine.perform_query (e : Engine site) {command : Command α}
    (query : command.isQuery = true) :
    ∃ step, e.perform command = .ok step ∧ step.engine.unsurveyed = e.unsurveyed ∧
      step.notes = [] ∧ step.published = [] := by
  cases command with
  | focus => exact ⟨_, rfl, focus_shows.2, rfl, rfl⟩
  | heatmap => exact ⟨_, rfl, heatmap_shows.2, rfl, rfl⟩
  | closest | tally | settings => exact ⟨_, rfl, rfl, rfl, rfl⟩
  | trace | motion | tick | advance => cases query

/-! ## Runs of commands -/

/-- The steps of a run up to its end or to the command that aborts it. -/
structure Course (site : Site α) where
  steps : List (Step site (Reply site))
  abort? : Option Abort

namespace Course

def after (step : Step site (Reply site)) (course : Course site) : Course site :=
  ⟨step :: course.steps, course.abort?⟩

/-- The engine at the end of a course that starts from `e`. -/
def last (course : Course site) (e : Engine site) : Engine site :=
  (course.steps.getLast?.map (·.engine)).getD e

def notes (course : Course site) : List (Note α) := course.steps.flatMap (·.notes)

def published (course : Course site) : List (Snapshot α) := course.steps.flatMap (·.published)

theorem last_after (step : Step site (Reply site)) (course : Course site) (e : Engine site) :
    (course.after step).last e = course.last step.engine := by
  rw [last, last, after, List.getLast?_cons]
  cases course.steps.getLast? <;> rfl

theorem notes_after (step : Step site (Reply site)) (course : Course site) :
    (course.after step).notes = step.notes ++ course.notes := List.flatMap_cons

theorem published_after (step : Step site (Reply site)) (course : Course site) :
    (course.after step).published = step.published ++ course.published := List.flatMap_cons

end Course

namespace Engine

def course (e : Engine site) : List (Command α) → Course site
  | [] => ⟨[], none⟩
  | command :: later =>
    match e.perform command with
    | .ok step => .after step (step.engine.course later)
    | .error abort => ⟨[], some abort⟩

/-- What a run of commands answers is what its steps answer, say and publish, one after the other. -/
theorem performAll_eq_course (e : Engine site) (commands : List (Command α)) :
    e.performAll commands =
      match (e.course commands).abort? with
      | some abort => .error abort
      | none => .ok ⟨(e.course commands).steps.map (·.result), (e.course commands).last e,
          (e.course commands).notes, (e.course commands).published⟩ := by
  induction commands generalizing e with
  | nil => rfl
  | cons command later ih =>
      simp only [performAll, course]
      cases e.perform command with
      | error abort => rfl
      | ok step =>
          change (step.engine.performAll later >>= _) = _
          rw [ih step.engine]
          simp only [Course.last_after]
          cases ended : (step.engine.course later).abort? with
          | some abort => simp only [Course.after, ended]; rfl
          | none => simp only [Course.after, ended]; rfl

end Engine

/-! ## Leaving queries out -/

/-- Commands, each with a mark that says whether it is kept. -/
abbrev Marked (α : Type) : Type := List (Command α × Bool)

namespace Marked

def whole (marked : Marked α) : List (Command α) := marked.map (·.1)

def kept (marked : Marked α) : List (Command α) := (marked.filter (·.2)).map (·.1)

/-- Of what belongs to the commands one by one, that which belongs to the kept ones. -/
def select {β : Type} (marked : Marked α) (items : List β) : List β :=
  ((marked.zip items).filter (·.1.2)).map (·.2)

def OnlyQueriesGo (marked : Marked α) : Prop :=
  ∀ entry ∈ marked, entry.2 = false → entry.1.isQuery = true

end Marked

namespace Engine

variable {e f : Engine site}

/-- What is left of a course from `e` when the queries among its commands are left out, and it starts
from `f`: all other steps, up to the gauges of surveys, and everything that was said and published. -/
structure Spares (marked : Marked α) (e f : Engine site) (whole kept : Course site) : Prop where
  steps : kept.steps.map Step.plain = (marked.select whole.steps).map Step.plain
  abort? : kept.abort? = whole.abort?
  engine : (kept.last f).unsurveyed = (whole.last e).unsurveyed
  notes : kept.notes = whole.notes
  published : kept.published = whole.published

variable {command : Command α} {later : Marked α} {step other : Step site (Reply site)}
  {whole kept : Course site}

theorem Spares.drop (rest : Spares later step.engine f whole kept) (silent : step.notes = [])
    (unpublished : step.published = []) :
    Spares ((command, false) :: later) e f (whole.after step) kept where
  steps := rest.steps
  abort? := rest.abort?
  engine := by
    rw [Course.last_after]
    exact rest.engine
  notes := by
    rw [Course.notes_after, silent, List.nil_append]
    exact rest.notes
  published := by
    rw [Course.published_after, unpublished, List.nil_append]
    exact rest.published

theorem Spares.keep (rest : Spares later other.engine step.engine whole kept)
    (plain : step.plain = other.plain) :
    Spares ((command, true) :: later) e f (whole.after other) (kept.after step) where
  steps := congrArg₂ List.cons plain rest.steps
  abort? := rest.abort?
  engine := by
    rw [Course.last_after, Course.last_after]
    exact rest.engine
  notes := by
    have said : step.notes = other.notes := congrArg (fun plain => plain.notes) plain
    rw [Course.notes_after, Course.notes_after, said, rest.notes]
  published := by
    have shown : step.published = other.published := congrArg (fun plain => plain.published) plain
    rw [Course.published_after, Course.published_after, shown, rest.published]

theorem spares_of_alike (alike : f.unsurveyed = e.unsurveyed) {marked : Marked α}
    (queries : marked.OnlyQueriesGo) :
    Spares marked e f (e.course marked.whole) (f.course marked.kept) := by
  induction marked generalizing e f with
  | nil => exact ⟨rfl, rfl, alike, rfl, rfl⟩
  | cons entry later ih =>
      obtain ⟨command, keep⟩ := entry
      have others : Marked.OnlyQueriesGo later := fun other member =>
        queries other (List.mem_cons_of_mem _ member)
      cases keep with
      | false =>
          have query : command.isQuery = true := queries (command, false) List.mem_cons_self rfl
          obtain ⟨step, done, still, silent, unpublished⟩ := e.perform_query query
          have rest := ih (alike.trans still.symm) others
          simpa [Marked.kept, Marked.whole, course, done] using rest.drop silent unpublished
      | true =>
          rcases alike_of_map_eq (perform_alike alike command) with
            ⟨abort, kept, whole⟩ | ⟨step, other, kept, whole, plain⟩
          · simpa [Marked.kept, Marked.whole, course, kept, whole] using
              (⟨rfl, rfl, alike, rfl, rfl⟩ : Spares ((command, true) :: later) e f ⟨[], some abort⟩
                ⟨[], some abort⟩)
          · have engines : step.engine.unsurveyed = other.engine.unsurveyed :=
              congrArg Step.engine plain
            have rest := ih engines others
            simpa [Marked.kept, Marked.whole, course, kept, whole] using rest.keep plain

end Engine

/-! ## Leaving queries out of timed runs -/

omit [Scalar α] in
theorem Marked.select_map {β γ : Type} (marked : Marked α) (view : β → γ) (items : List β) :
    marked.select (items.map view) = (marked.select items).map view := by
  simp only [Marked.select, List.zip_map_right, List.filter_map, List.map_map]
  rfl

/-- The steps of a whole run as they show apart from the gauges of surveys. -/
def Step.plainAll (step : Step site (List (Reply site))) : Step site (List (Reply site)) :=
  (step.map fun replies => replies.map Reply.unsurveyed).unsurveyed

theorem Engine.performAll_kept {e f : Engine site} (alike : f.unsurveyed = e.unsurveyed)
    {marked : Marked α} (queries : marked.OnlyQueriesGo) :
    (f.performAll marked.kept).map Step.plainAll =
      (e.performAll marked.whole).map fun step => (step.map marked.select).plainAll := by
  have spares := spares_of_alike alike queries
  rw [performAll_eq_course, performAll_eq_course, spares.abort?]
  cases (e.course marked.whole).abort? with
  | some abort => rfl
  | none =>
      have results : ((f.course marked.kept).steps.map (·.result)).map Reply.unsurveyed =
          (marked.select ((e.course marked.whole).steps.map (·.result))).map Reply.unsurveyed := by
        have same := congrArg (List.map Step.result) spares.steps
        rw [Marked.select_map, List.map_map, List.map_map]
        rwa [List.map_map, List.map_map] at same
      simp only [Except.map, Step.plainAll, Step.map, Step.unsurveyed, results, spares.engine,
        spares.notes, spares.published]

namespace Timeline

/-- A timeline whose arrivals are chosen from commands that come together. -/
def bringing (timeline : Timeline α) (choose : Marked α → List (Command α))
    (arrivals : List (Nat × Marked α)) : Timeline α :=
  { timeline with arrivals := arrivals.map fun arrival => (arrival.1, choose arrival.2) }

end Timeline

namespace Run

/-- A run as it shows apart from the gauges of surveys. -/
def plain (run : Run site) : Run site :=
  { run with
    engine := run.engine.unsurveyed
    replies := run.replies.map fun replies => replies.map Reply.unsurveyed }

/-- A run without the replies to what was left out of its arrivals. -/
def selecting (run : Run site) (arrivals : List (Nat × Marked α)) : Run site :=
  { run with
    replies := List.zipWith (fun arrival replies => arrival.2.select replies) arrivals run.replies }

/-- A run and one without some of the queries, after the same arrivals. -/
structure Tracks (arrivals : List (Nat × Marked α)) (run other : Run site) : Prop where
  answered : run.replies.length = arrivals.length
  replies : other.plain.replies = (run.selecting arrivals).plain.replies
  engine : other.engine.unsurveyed = run.engine.unsurveyed
  notes : other.notes = run.notes
  published : other.published = run.published

/-- Two runs abort alike or are abreast of each other. -/
inductive Abreast (arrivals : List (Nat × Marked α)) :
    Except Abort (Run site) → Except Abort (Run site) → Prop
  | aborted (abort : Abort) : Abreast arrivals (.error abort) (.error abort)
  | reached {run other : Run site} (tracks : Tracks arrivals run other) :
      Abreast arrivals (.ok run) (.ok other)

variable {arrivals more : List (Nat × Marked α)} {run other : Run site}

theorem Abreast.bind {x y : Except Abort (Run site)} {g h : Run site → Except Abort (Run site)}
    (first : Abreast arrivals x y)
    (next : ∀ run other, Tracks arrivals run other → Abreast more (g run) (h other)) :
    Abreast more (x >>= g) (y >>= h) := by
  cases first with
  | aborted abort => exact .aborted abort
  | reached tracks => exact next _ _ tracks

namespace Tracks

theorem plain (tracks : Tracks arrivals run other) :
    other.plain = (run.selecting arrivals).plain := by
  have replies := tracks.replies
  simp only [Run.plain, selecting, tracks.engine, tracks.notes, tracks.published] at replies ⊢
  rw [replies]

theorem note (tracks : Tracks arrivals run other) (note : Note α) :
    Tracks arrivals (run.note note) (other.note note) :=
  ⟨tracks.answered, tracks.replies, tracks.engine, congrArg (· ++ [note]) tracks.notes,
    tracks.published⟩

theorem tick (tracks : Tracks arrivals run other) : Abreast arrivals run.tick other.tick := by
  have same : run.engine.tick.map Step.unsurveyed = other.engine.tick.map Step.unsurveyed := by
    rw [← Engine.tick_unsurveyed, ← tracks.engine, Engine.tick_unsurveyed]
  unfold Run.tick
  rcases alike_of_map_eq same with ⟨abort, whole, kept⟩ | ⟨ticked, step, whole, kept, alike⟩
  · rw [kept, whole]
    exact .aborted abort
  · rw [kept, whole]
    have notes : ticked.notes = step.notes := congrArg (fun step => step.notes) alike
    have published : ticked.published = step.published := congrArg (fun step => step.published) alike
    have engine : ticked.engine.unsurveyed = step.engine.unsurveyed :=
      congrArg (fun step => step.engine) alike
    exact .reached ⟨tracks.answered, tracks.replies, engine.symm,
      congrArg₂ (· ++ ·) tracks.notes notes.symm,
      congrArg₂ (· ++ ·) tracks.published published.symm⟩

theorem arrive (tracks : Tracks arrivals run other) (time : Nat) {marked : Marked α}
    (queries : marked.OnlyQueriesGo) :
    Abreast (arrivals ++ [(time, marked)]) (run.arrive marked.whole) (other.arrive marked.kept) := by
  unfold Run.arrive
  rcases alike_of_map_eq (Engine.performAll_kept tracks.engine queries) with
    ⟨abort, kept, whole⟩ | ⟨step, answered, kept, whole, alike⟩
  · rw [kept, whole]
    exact .aborted abort
  · rw [kept, whole]
    have notes : step.notes = answered.notes := congrArg (fun step => step.notes) alike
    have published : step.published = answered.published :=
      congrArg (fun step => step.published) alike
    have result : step.result.map Reply.unsurveyed =
        (marked.select answered.result).map Reply.unsurveyed :=
      congrArg (fun step => step.result) alike
    refine .reached ⟨?_, ?_, congrArg (fun step => step.engine) alike,
      congrArg₂ (· ++ ·) tracks.notes notes, congrArg₂ (· ++ ·) tracks.published published⟩
    · simp [tracks.answered]
    · have earlier := tracks.replies
      simp only [Run.plain, selecting] at earlier ⊢
      rw [List.zipWith_append tracks.answered.symm, List.map_append, List.map_append, earlier]
      exact congrArg (_ ++ [·]) result

theorem arriveAll (tracks : Tracks arrivals run other)
    (queries : ∀ arrival ∈ more, arrival.2.OnlyQueriesGo) :
    Abreast (arrivals ++ more)
      (run.arriveAll (more.map fun arrival => (arrival.1, arrival.2.whole)))
      (other.arriveAll (more.map fun arrival => (arrival.1, arrival.2.kept))) := by
  induction more generalizing arrivals run other with
  | nil =>
      rw [List.append_nil]
      exact .reached tracks
  | cons arrival later ih =>
      have first := tracks.arrive arrival.1 (queries arrival List.mem_cons_self)
      refine first.bind fun run other tracks => ?_
      have rest := ih tracks fun arrival member => queries arrival (List.mem_cons_of_mem _ member)
      rwa [List.append_assoc] at rest

end Tracks

variable {x y : Except Abort (Run site)} {g h : Run site → Except Abort (Run site)}

theorem Abreast.plain (abreast : Abreast arrivals x y) :
    y.map Run.plain = x.map fun run => (run.selecting arrivals).plain := by
  cases abreast with
  | aborted abort => rfl
  | reached tracks => exact congrArg Except.ok tracks.plain

theorem Abreast.bind_plain (first : Abreast arrivals x y)
    (next : ∀ run other, Tracks arrivals run other →
      (h other).map Run.plain = (g run).map fun last => (last.selecting more).plain) :
    (y >>= h).map Run.plain = (x >>= g).map fun last => (last.selecting more).plain := by
  cases first with
  | aborted abort => rfl
  | reached tracks => exact next _ _ tracks

/-- Arrivals that are not answered yet have nothing to select. -/
theorem Tracks.selecting_append (tracks : Tracks arrivals run other)
    (later : List (Nat × Marked α)) :
    run.selecting (arrivals ++ later) = run.selecting arrivals := by
  unfold selecting
  rw [← List.append_nil run.replies, List.zipWith_append tracks.answered.symm,
    List.zipWith_nil_right, List.append_nil, List.append_nil]

/-- What a run does next hangs on the times of its arrivals, not on what they bring. -/
theorem goOn_kept (stop : Nat) (timerFirst : Bool) (fuel : Nat) (phase : Phase) (wake : Nat)
    (tracks : Tracks arrivals run other) (queries : ∀ arrival ∈ more, arrival.2.OnlyQueriesGo) :
    (goOn stop timerFirst fuel phase wake
        (more.map fun arrival => (arrival.1, arrival.2.kept)) other).map Run.plain =
      (goOn stop timerFirst fuel phase wake
        (more.map fun arrival => (arrival.1, arrival.2.whole)) run).map
          fun last => (last.selecting (arrivals ++ more)).plain := by
  induction fuel generalizing phase wake arrivals more run other with
  | zero =>
      exact congrArg Except.ok (tracks.plain.trans
        (congrArg Run.plain (tracks.selecting_append more)).symm)
  | succ fuel ih =>
      by_cases due : ∃ arrival later, more = arrival :: later ∧ arrival.1 ≤ wake ∧ arrival.1 ≤ stop
      · obtain ⟨arrival, later, rfl, inTime⟩ := due
        simp only [goOn, List.map_cons, due?, if_pos inTime]
        refine (tracks.arrive arrival.1 (queries arrival List.mem_cons_self)).bind_plain
          fun run other tracks => ?_
        have rest := ih phase wake tracks fun arrival member =>
          queries arrival (List.mem_cons_of_mem _ member)
        rwa [List.append_assoc] at rest
      · have none : ∀ choose : Marked α → List (Command α),
            due? stop wake (more.map fun arrival => (arrival.1, choose arrival.2)) = none := by
          intro choose
          cases more with
          | nil => rfl
          | cons arrival later => exact if_neg fun inTime => due ⟨arrival, later, rfl, inTime⟩
        simp only [goOn, none]
        cases phase with
        | warmingUp =>
            dsimp only
            split
            · exact ((tracks.note _).arriveAll queries).plain
            · exact ih _ _ tracks queries
        | ticking =>
            dsimp only
            split
            · exact ((tracks.note _).arriveAll queries).plain
            · exact tracks.tick.bind_plain fun run other tracks => ih _ _ tracks queries

end Run

theorem Engine.run_kept {e f : Engine site} (alike : f.unsurveyed = e.unsurveyed)
    (timeline : Timeline α) {arrivals : List (Nat × Marked α)}
    (queries : ∀ arrival ∈ arrivals, arrival.2.OnlyQueriesGo) :
    (f.run (timeline.bringing Marked.kept arrivals)).map Run.plain =
      (e.run (timeline.bringing Marked.whole arrivals)).map fun run =>
        (run.selecting arrivals).plain := by
  have start : Run.Tracks [] ⟨e, [], [.runStarting site.settings.period site.settings.warmupTime], []⟩
      ⟨f, [], [.runStarting site.settings.period site.settings.warmupTime], []⟩ :=
    ⟨rfl, rfl, alike, rfl, rfl⟩
  unfold Engine.run Timeline.bringing
  dsimp only
  split
  · exact ((start.note _).arriveAll queries).plain
  · rw [List.length_map, List.length_map]
    exact Run.goOn_kept _ _ _ _ _ start queries

/-- Queries may be left out of any run, or put into it: all other steps answer, publish and report
what they did, up to the gauges of surveys, and leave the same targets.  So do runs along a timeline
with queries among their arrivals.  And no survey can pass anything on to a later one in the buffers
that it works in. -/
theorem queries_do_not_interfere [LawfulScalar α] [CountingScalar α] (e : Engine site) :
    (∀ marked : Marked α, marked.OnlyQueriesGo →
      Engine.Spares marked e e (e.course marked.whole) (e.course marked.kept)) ∧
      (∀ (timeline : Timeline α) (arrivals : List (Nat × Marked α)),
        (∀ arrival ∈ arrivals, arrival.2.OnlyQueriesGo) →
          (e.run (timeline.bringing Marked.kept arrivals)).map Run.plain =
            (e.run (timeline.bringing Marked.whole arrivals)).map fun run =>
              (run.selecting arrivals).plain) ∧
      ∀ (evidence : Evidence site.evidencePlan) (scratch : Scratch site.evidencePlan)
        (tally : Tally α), (evidence.surveyIn scratch tally).1 = evidence.survey tally :=
  ⟨fun _ queries => Engine.spares_of_alike rfl queries,
    fun timeline _ queries => Engine.run_kept rfl timeline queries,
    fun evidence scratch tally => evidence.surveyIn_fst scratch tally⟩

/-- Two rays and a tick, watched in between. -/
def watchedRun : Marked Float :=
  [(.trace "a" firstCellRay, true), (.focus, false), (.trace "b" firstCellRay, true),
    (.heatmap, false), (.tick, true), (.closest ⟨0, 0⟩, false), (.tally, true)]

theorem watchedRun_spared :
    watchedRun.kept.length = 4 ∧
      Engine.Spares watchedRun (.start yard) (.start yard) ((Engine.start yard).course watchedRun.whole)
        ((Engine.start yard).course watchedRun.kept) ∧
      ((Engine.start yard).run
          (Timeline.bringing ⟨600, false, [], false⟩ Marked.kept [(300, watchedRun)])).map Run.plain =
        ((Engine.start yard).run
          (Timeline.bringing ⟨600, false, [], false⟩ Marked.whole [(300, watchedRun)])).map
            fun run => (run.selecting [(300, watchedRun)]).plain := by
  have queries : watchedRun.OnlyQueriesGo := by
    intro entry member goes
    simp only [watchedRun, List.mem_cons, List.not_mem_nil, or_false] at member
    rcases member with rfl | rfl | rfl | rfl | rfl | rfl | rfl
    all_goals first | rfl | cases goes
  obtain ⟨courses, runs, _⟩ := queries_do_not_interfere (Engine.start yard)
  refine ⟨rfl, courses watchedRun queries, runs _ _ fun arrival member => ?_⟩
  rw [List.mem_singleton] at member
  subst member
  exact queries

end Sightline
