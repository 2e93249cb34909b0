import Sightline.Proofs.Engine.Regions
import Sightline.Proofs.Engine.Reordering
import Sightline.Proofs.Evidence.Fading

/-!
# Nothing lights up without rays

Only a ray that is gathered adds evidence.  While none is, each step leaves evidence as it is or fades
it, and the ticks report one peak after the other, each no higher than the last.
-/

set_option autoImplicit false

namespace Sightline

/-- The value of the focus that a tick reports. -/
def Reply.focusValue? {α : Type} [Scalar α] {site : Site α} : Reply site → Option α
  | .ticked report => some report.focus.value
  | _ => none

namespace Engine

section Steps

variable {α : Type} [Scalar α] {site : Site α} {e : Engine site}

/-- A step that gathers nothing leaves evidence as it is, or is a tick, which reports the peak and
then fades. -/
theorem evidence_of_ungathered {command : Command α} {step : Step site (Reply site)}
    (done : e.perform command = .ok step) (ungathered : step.result ≠ .traced (.ok .gathered)) :
    (step.engine.evidence = e.evidence ∧ step.result.focusValue? = none) ∨
      (step.engine.evidence = e.evidence.decay ∧
        step.result.focusValue? = some e.evidence.brightest.value) := by
  have effect := perform_effect done
  generalize command.deed site = deed at effect
  cases effect with
  | ray traced accepted same =>
      subst same
      cases accepted with
      | claimed _ evidence _ _ _ => exact .inl ⟨evidence, rfl⟩
      | gathered _ _ _ result _ => exact absurd (congrArg Reply.traced result) ungathered
  | tick ticked does same =>
      subst same
      exact .inr ⟨does.evidence, congrArg (fun focus : Focus α => some focus.value) does.focus⟩
  | wait later after same =>
      subst same
      exact .inl ⟨rfl, rfl⟩
  | nothing unmoved _ noTick _ =>
      refine .inl ⟨unmoved.evidence, ?_⟩
      generalize step.result = reply at noTick
      cases reply with
      | ticked report => exact absurd rfl (noTick report)
      | _ => rfl

end Steps

variable {site : Site ℝ} {e first : Engine site}

theorem exact_retention {settings : Settings ℝ} {installation : Installation ℝ}
    (follows : site.Follows settings installation) :
    0 < site.evidencePlan.retention ∧ site.evidencePlan.retention ≤ 1 := by
  have zero : ((0 : ℕ) : ℝ) = 0 := Nat.cast_zero
  have one : ((1 : ℕ) : ℝ) = 1 := Nat.cast_one
  obtain ⟨positive, atMost⟩ := Bool.and_eq_true_iff.1 follows.sound.retention
  rw [follows.retention, ← zero, ← one]
  exact ⟨of_decide_eq_true positive, of_decide_eq_true atMost⟩

theorem exact_increment {settings : Settings ℝ} {installation : Installation ℝ}
    (follows : site.Follows settings installation) : 0 < site.evidencePlan.increment := by
  have zero : ((0 : ℕ) : ℝ) = 0 := Nat.cast_zero
  obtain ⟨positive, _⟩ := Bool.and_eq_true_iff.1 <|
    follows.sound.positive (.increment, settings.increment) (by simp [Settings.positives])
  rw [follows.increment, ← zero]
  exact of_decide_eq_true positive

theorem exact_cells_nonneg {settings : Settings ℝ} {installation : Installation ℝ}
    {commands : List (Command ℝ)} {run : Step site (List (Reply site))}
    (follows : site.Follows settings installation)
    (done : (start site).performAll commands = .ok run) :
    run.engine.evidence.AllCells (0 ≤ ·) :=
  Evidence.exact_cells_nonneg (exact_increment follows) (exact_retention follows).1
    (performAll_gathered done)

/-- A run along which evidence only fades. -/
structure FadesAlong (e : Engine site) (run : Step site (List (Reply site))) : Prop where
  cells : run.engine.evidence.AllCells (0 ≤ ·)
  fades : e.evidence.Fades run.engine.evidence
  below : ∀ value ∈ run.result.filterMap Reply.focusValue?, value ≤ e.evidence.brightest.value
  falling : (run.result.filterMap Reply.focusValue?).Pairwise fun earlier later => later ≤ earlier

theorem fadesAlong_performAll (positive : 0 < site.evidencePlan.retention)
    (atMost : site.evidencePlan.retention ≤ 1) (cells : e.evidence.AllCells (0 ≤ ·))
    {commands : List (Command ℝ)} {run : Step site (List (Reply site))}
    (done : e.performAll commands = .ok run)
    (ungathered : ∀ reply ∈ run.result, reply ≠ .traced (.ok .gathered)) : e.FadesAlong run := by
  induction commands generalizing e run with
  | nil =>
      cases done
      exact ⟨cells, .refl _, by simp [silently], by simp [silently]⟩
  | cons command later ih =>
      obtain ⟨step, others, one, rest, rfl⟩ := performAll_cons_eq_ok.1 done
      have first : step.result ≠ .traced (.ok .gathered) := ungathered _ List.mem_cons_self
      have remaining : ∀ reply ∈ others.result, reply ≠ .traced (.ok .gathered) :=
        fun reply member => ungathered reply (List.mem_cons_of_mem _ member)
      rcases evidence_of_ungathered one first with ⟨same, silent⟩ | ⟨faded, reported⟩
      · have along := ih (same ▸ cells) rest remaining
        have values : (step.alone.append others).result.filterMap Reply.focusValue? =
            others.result.filterMap Reply.focusValue? := by
          simp [Step.append, Step.alone, silent]
        refine ⟨along.cells, same ▸ along.fades, ?_, ?_⟩
        · rw [values, ← same]
          exact along.below
        · rw [values]
          exact along.falling
      · have fading := Evidence.fades_decay cells atMost
        have faint := cells.decay fun value nonneg => mul_nonneg nonneg positive.le
        have along := ih (faded ▸ faint) rest remaining
        have below : ∀ value ∈ others.result.filterMap Reply.focusValue?,
            value ≤ e.evidence.brightest.value := fun value member =>
          (along.below value member).trans (faded ▸ fading.brightest)
        have values : (step.alone.append others).result.filterMap Reply.focusValue? =
            e.evidence.brightest.value :: others.result.filterMap Reply.focusValue? := by
          simp [Step.append, Step.alone, reported]
        refine ⟨along.cells, fading.trans (faded ▸ along.fades), ?_, ?_⟩
        · rw [values, List.forall_mem_cons]
          exact ⟨le_refl _, below⟩
        · rw [values, List.pairwise_cons]
          exact ⟨below, along.falling⟩

/-- From a state that requests lead to, while no ray is gathered: between any two moments no cell
becomes salient and the surface rises nowhere, and no tick reports a higher focus than an earlier
one. -/
theorem evidence_only_fades {settings : Settings ℝ} {installation : Installation ℝ}
    {requests : List (Request ℝ)} {served : Step site (List (List (List (Reply site))))}
    {commands : List (Command ℝ)} {rest : Step site (List (Reply site))}
    (made : Site.create settings installation = .ok site)
    (created : Engine.create site = .ok first) (done : first.serveAll requests = .ok served)
    (continued : served.engine.performAll commands = .ok rest)
    (ungathered : ∀ reply ∈ rest.result, reply ≠ .traced (.ok .gathered)) :
    (∀ earlier between later, commands = earlier ++ between ++ later →
      ∃ reached next, served.engine.performAll earlier = .ok reached ∧
        reached.engine.performAll between = .ok next ∧
        reached.engine.evidence.Fades next.engine.evidence) ∧
      (rest.result.filterMap Reply.focusValue?).Pairwise fun earlier later => later ≤ earlier := by
  have follows := Site.follows_of_create made
  have start := create_eq_ok created
  subst start
  have period : 0 < site.settings.spawnPeriod := follows.sameSettings ▸ follows.sound.period
  obtain ⟨run, carried, sameEngine, _⟩ := leads_of_serveAll period done
  obtain ⟨positive, atMost⟩ := exact_retention follows
  have cells := exact_cells_nonneg follows carried
  rw [sameEngine] at cells
  refine ⟨fun earlier between later split => ?_,
    (fadesAlong_performAll positive atMost cells continued ungathered).falling⟩
  rw [split, List.append_assoc] at continued
  obtain ⟨reached, others, before, remaining, rfl⟩ := performAll_append_eq_ok.1 continued
  obtain ⟨next, last, middle, _, rfl⟩ := performAll_append_eq_ok.1 remaining
  have start := fadesAlong_performAll positive atMost cells before
    fun reply member => ungathered reply (List.mem_append_left _ member)
  have onward := fadesAlong_performAll positive atMost start.cells middle
    fun reply member => ungathered reply (List.mem_append_right _ (List.mem_append_left _ member))
  exact ⟨reached, next, before, middle, onward.fades⟩

/-! ## Two rays fade -/

theorem hits_start {t : Tiling ℝ} {ray inside : Segment ℝ} (clamped : t.clampEnds ray = .ok inside)
    (positive : 0 < t.samplingStep) (long : t.samplingStep ≤ inside.along.norm) :
    ∃ stroke, t.strokeOf? ray = some stroke ∧ 0 < stroke.hits t (t.cellOf inside.start) := by
  have drawn : t.strokeOf? ray = t.strokeAlong inside := by
    simp only [Tiling.strokeOf?, Tiling.stroke_of_clampEnds clamped]
    rfl
  rw [drawn, Tiling.strokeAlong, if_neg (not_lt.2 long)]
  refine ⟨_, rfl, ?_⟩
  have quotient : 1 ≤ inside.along.norm / t.samplingStep := (one_le_div positive).2 long
  have count : Scalar.floorCount (inside.along.norm / t.samplingStep) ≠ 0 := by
    have whole := Nat.le_floor (n := 1) (by exact_mod_cast quotient)
    change min ⌊inside.along.norm / t.samplingStep⌋₊ (2 ^ 64 - 1) ≠ 0
    omega
  obtain ⟨count, same⟩ := Nat.exists_eq_succ_of_ne_zero count
  rw [Stroke.hits, Stroke.samples, same]
  exact List.countP_pos_iff.2 ⟨inside.start, List.mem_cons_self, by simp⟩

noncomputable def upwardRay : Segment ℝ := ⟨⟨0, -1 / 2⟩, ⟨0, 1 / 2⟩⟩

noncomputable def acrossRay : Segment ℝ := ⟨⟨-1 / 2, 0⟩, ⟨1 / 2, 0⟩⟩

/-- Two cameras look through the middle of the cell. -/
noncomputable def crossedRays : List (Command ℝ) := [.trace "a" upwardRay, .trace "b" acrossRay]

theorem exactYard_step : exactYard.evidencePlan.tiling.samplingStep = 1 / 2 := by
  have cell : exactYard.evidencePlan.tiling.cellSize = ⟨2, 2⟩ := by
    norm_num [Tiling.cellSize, exactYard, exactSettings, Exact.ofNat_eq]
  rw [Tiling.samplingStep_eq, cell, Scalar.lesser, if_pos (le_refl _)]
  norm_num

theorem exactYard_cellOf {p : Point ℝ} (x : p.x ∈ Set.Icc (-1 / 2) (1 / 2))
    (y : p.y ∈ Set.Icc (-1 / 2) (1 / 2)) : exactYard.evidencePlan.tiling.cellOf p = ⟨0, 0⟩ := by
  have density : exactYard.evidencePlan.tiling.density = ⟨1 / 2, 1 / 2⟩ := by
    norm_num [Tiling.density, exactYard, exactSettings, Exact.ofNat_eq]
  have floor : ∀ value : ℝ, value ∈ Set.Icc (-1 / 2) (1 / 2) →
      Scalar.floorCount ((value - -1) * (1 / 2)) = 0 := by
    rintro value ⟨low, high⟩
    have none : ⌊(value - -1) * (1 / 2)⌋₊ = 0 := Nat.floor_eq_zero.2 (by linarith)
    change min ⌊(value - -1) * (1 / 2)⌋₊ (2 ^ 64 - 1) = 0
    rw [none, Nat.zero_min]
  rw [Tiling.cellOf, density]
  exact congrArg₂ Cell.mk (floor p.y y) (floor p.x x)

theorem exactYard_clamp {p : Point ℝ} (x : p.x ∈ Set.Icc (-1 / 2) (1 / 2))
    (y : p.y ∈ Set.Icc (-1 / 2) (1 / 2)) :
    exactYard.evidencePlan.tiling.clamp (exactYard.evidencePlan.tiling.samplingStep / 2) p =
      .ok p := by
  have bounds : exactYard.evidencePlan.tiling.bounds = ⟨-1, -1, 1, 1⟩ := rfl
  obtain ⟨left, right⟩ := x
  obtain ⟨low, high⟩ := y
  apply Tiling.clamp_of_inside
  · rw [bounds]
    linarith
  · rw [bounds, exactYard_step]
    linarith
  · rw [bounds]
    linarith
  · rw [bounds, exactYard_step]
    linarith

/-- A ray of unit length in the middle half of the cell leaves a sample there. -/
theorem exactYard_hits (ray : Segment ℝ)
    (startX : ray.start.x ∈ Set.Icc (-1 / 2) (1 / 2)) (startY : ray.start.y ∈ Set.Icc (-1 / 2) (1 / 2))
    (stopX : ray.stop.x ∈ Set.Icc (-1 / 2) (1 / 2)) (stopY : ray.stop.y ∈ Set.Icc (-1 / 2) (1 / 2))
    (unit : ray.along.normSq = 1) :
    ∃ stroke, exactYard.evidencePlan.tiling.strokeOf? ray = some stroke ∧
      0 < stroke.hits exactYard.evidencePlan.tiling ⟨0, 0⟩ := by
  have inside := Tiling.clampEnds_of_clamp (exactYard_clamp startX startY) (exactYard_clamp stopX stopY)
  have long : exactYard.evidencePlan.tiling.samplingStep ≤ ray.along.norm := by
    rw [exactYard_step]
    apply Real.le_sqrt_of_sq_le
    rw [unit]
    norm_num
  rw [← exactYard_cellOf startX startY]
  exact hits_start inside (by rw [exactYard_step]; norm_num) long

theorem exactYard_inside :
    Raster.Holds exactYard.evidencePlan.tiling.rows exactYard.evidencePlan.tiling.columns ⟨0, 0⟩ :=
  ⟨Nat.one_pos, Nat.one_pos⟩

theorem crossedRays_salient {e : Evidence exactYard.evidencePlan}
    (gathers : Evidence.none.Gathers e (exactYard.letInAll crossedRays)) :
    e.Salient ⟨0, 0⟩ exactYard_inside := by
  have increment : (0 : ℝ) < exactYard.evidencePlan.increment := by
    change (0 : ℝ) < 0.025
    norm_num
  have above : exactYard.evidencePlan.maskThreshold < exactYard.evidencePlan.increment := by
    change (0.01 : ℝ) < 0.025
    norm_num
  obtain ⟨up, upDrawn, upHit⟩ := exactYard_hits upwardRay (by norm_num [upwardRay])
    (by norm_num [upwardRay]) (by norm_num [upwardRay]) (by norm_num [upwardRay])
    (by norm_num [upwardRay, Segment.along, Point.normSq, Point.dot])
  obtain ⟨across, acrossDrawn, acrossHit⟩ := exactYard_hits acrossRay (by norm_num [acrossRay])
    (by norm_num [acrossRay]) (by norm_num [acrossRay]) (by norm_num [acrossRay])
    (by norm_num [acrossRay, Segment.along, Point.normSq, Point.dot])
  have rays : exactYard.letInAll crossedRays = [("a", upwardRay), ("b", acrossRay)] := rfl
  have hitA : 0 < exactYard.evidencePlan.hits (exactYard.letInAll crossedRays) "a" ⟨0, 0⟩ := by
    simpa [rays, EvidencePlan.hits, upDrawn] using upHit
  have hitB : 0 < exactYard.evidencePlan.hits (exactYard.letInAll crossedRays) "b" ⟨0, 0⟩ := by
    simpa [rays, EvidencePlan.hits, acrossDrawn] using acrossHit
  obtain ⟨a, filedA, aboveA⟩ := gathers.exists_supports exactYard_inside increment above hitA
  obtain ⟨b, filedB, aboveB⟩ := gathers.exists_supports exactYard_inside increment above hitB
  exact e.layers.one_lt_countP (by decide) filedA filedB aboveA aboveB

theorem ungathered_of_ticks {site : Site ℝ} {e : Engine site} {commands : List (Command ℝ)}
    {run : Step site (List (Reply site))} (ticks : ∀ command ∈ commands, command = .tick)
    (done : e.performAll commands = .ok run) :
    ∀ reply ∈ run.result, reply ≠ .traced (.ok .gathered) := by
  induction commands generalizing e run with
  | nil =>
      cases done
      simp [silently]
  | cons command later ih =>
      obtain ⟨step, others, one, rest, rfl⟩ := performAll_cons_eq_ok.1 done
      have tick := ticks command List.mem_cons_self
      subst tick
      cases perform_effect one with
      | tick ticked does same =>
          subst same
          refine List.forall_mem_cons.2 ⟨by simp [Step.map], ?_⟩
          exact ih (fun other member => ticks other (List.mem_cons_of_mem _ member)) rest

/-- The evidence of two rays over two ticks. -/
theorem crossedRays_fade : ∃ served rest,
    (start exactYard).serveAll [.perform crossedRays] = .ok served ∧
      served.engine.evidence.Salient ⟨0, 0⟩ exactYard_inside ∧
      served.engine.performAll [.tick, .tick] = .ok rest ∧
      served.engine.evidence.Fades rest.engine.evidence ∧
      (rest.result.filterMap Reply.focusValue?).Pairwise fun earlier later => later ≤ earlier := by
  have created : Engine.create exactYard = .ok (start exactYard) := rfl
  have inTime : (Command.clockAfter (crossedRays ++ [.tick, .tick])).Reaches
      exactYard.trackerPlan.ttl := by
    unfold Instant.Reaches
    decide
  obtain ⟨whole, done⟩ := exists_performAll created
    (fun _ _ ray _ => exactYard.evidencePlan.tiling.hasRoom.not_blocks ray) inTime
  obtain ⟨run, rest, begun, ended, _⟩ := performAll_append_eq_ok.1 done
  obtain ⟨served, answered, same⟩ : ∃ served,
      (start exactYard).serveAll [.perform crossedRays] = .ok served ∧ served.engine = run.engine := by
    simp only [serveAll, serve, begun]
    exact ⟨_, rfl, rfl⟩
  have sights : ∀ command ∈ crossedRays, command.Sights exactYard := by
    intro command member
    simp only [crossedRays, List.mem_cons, List.not_mem_nil, or_false] at member
    rcases member with rfl | rfl
    · exact trivial
    · exact trivial
  have gathers := Evidence.gathers_of_performAll (sighted_of_performAll sights rfl begun).evidence
  have ungathered := ungathered_of_ticks (by simp) ended
  rw [← same] at ended
  obtain ⟨fades, falling⟩ := evidence_only_fades exactYard_created created answered ended ungathered
  obtain ⟨reached, next, none, last, faded⟩ := fades [] [.tick, .tick] [] rfl
  cases none
  rw [silently, ended] at last
  cases last
  exact ⟨served, rest, answered, same ▸ crossedRays_salient gathers, ended, faded, falling⟩

end Engine

end Sightline
