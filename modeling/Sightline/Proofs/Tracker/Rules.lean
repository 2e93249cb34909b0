import Sightline.Tracker

/-!
# What the rules of the tracker do

For each rule, everything that its success says: what is answered, and which targets are there
afterwards.  Nothing that follows opens a rule again.
-/

set_option autoImplicit false

namespace Sightline

variable {α : Type} [Scalar α]

theorem requireFiniteEnds_eq_ok (ray : Segment α) (start stop : Entry) :
    requireFiniteEnds ray start stop = .ok () ↔ ray.isFinite = true := by
  unfold requireFiniteEnds requireFinite Segment.isFinite
  cases startFinite : ray.start.isFinite <;> cases stopFinite : ray.stop.isFinite <;>
    simp [bind, Except.bind]

theorem requireFiniteEnds_cases (ray : Segment α) (start stop : Entry) :
    (ray.isFinite = true ∧ requireFiniteEnds ray start stop = .ok ()) ∨
      (ray.isFinite = false ∧
        (requireFiniteEnds ray start stop = .error (.notFinite start) ∨
          requireFiniteEnds ray start stop = .error (.notFinite stop))) := by
  unfold requireFiniteEnds requireFinite Segment.isFinite
  cases startFinite : ray.start.isFinite <;> cases stopFinite : ray.stop.isFinite <;>
    simp [bind, Except.bind]

theorem Instant.after_eq_ok {t later : Instant} {d : Duration} (moved : t.after d = .ok later) :
    later = ⟨t.nanos + d.nanos⟩ := by
  rw [after] at moved
  split at moved
  · cases moved
    rfl
  · cases moved

def SpawnVerdict.id? : SpawnVerdict → Option TargetId
  | .spawned id => some id
  | _ => none

namespace Target

def isStale (t : Target α) (now : Instant) : Bool :=
  decide (t.refreshed.nanos + t.ttl.nanos < now.nanos)

omit [Scalar α] in
theorem isExpired_eq_ok {t : Target α} {now : Instant} {expired : Bool}
    (checked : t.isExpired now = .ok expired) : expired = t.isStale now := by
  simp only [isExpired, expiry, bind_eq_ok] at checked
  obtain ⟨last, lastEq, result⟩ := checked
  cases result
  rw [Instant.after_eq_ok lastEq]
  rfl

end Target

namespace Tracker

/-! ## Claims -/

theorem isSome_betterClaim (ray : Segment α) (best : Option (Claim α)) (entry : Tracked α × Nat) :
    (betterClaim ray best entry).isSome = (best.isSome || (entry.1.disc.crossing? ray).isSome) := by
  unfold betterClaim
  cases entry.1.disc.crossing? ray with
  | none => simp
  | some crossing =>
      cases best with
      | none => rfl
      | some held => dsimp only; split <;> rfl

theorem isSome_foldl_betterClaim (ray : Segment α) :
    ∀ (entries : List (Tracked α × Nat)) (best : Option (Claim α)),
      (entries.foldl (betterClaim ray) best).isSome =
        (best.isSome || entries.any fun entry => (entry.1.disc.crossing? ray).isSome) := by
  intro entries
  induction entries with
  | nil => intro best; simp
  | cons entry rest ih =>
      intro best
      rw [List.foldl_cons, ih, isSome_betterClaim, List.any_cons, Bool.or_assoc]

theorem isSome_claim? (targets : List (Tracked α)) (ray : Segment α) :
    (claim? targets ray).isSome = true ↔
      ∃ target ∈ targets, (target.disc.crossing? ray).isSome = true := by
  unfold claim?
  rw [isSome_foldl_betterClaim]
  simp only [Option.isSome_none, Bool.false_or, List.any_eq_true]
  constructor
  · rintro ⟨entry, member, crossed⟩
    exact ⟨entry.1, List.fst_mem_of_mem_zipIdx member, crossed⟩
  · rintro ⟨target, member, crossed⟩
    obtain ⟨index, at?⟩ := List.getElem?_of_mem member
    exact ⟨(target, index), List.mk_mem_zipIdx_iff_getElem?.2 at?, crossed⟩

/-- A claim is that of an entry: its target crosses the ray, and the claim goes to the middle of the
crossing. -/
def Claims (ray : Segment α) (entry : Tracked α × Nat) (claim : Claim α) : Prop :=
  claim.index = entry.2 ∧
    ∃ crossing, entry.1.disc.crossing? ray = some crossing ∧ claim.middle = crossing.midpoint

theorem betterClaim_eq_some {ray : Segment α} {best : Option (Claim α)} {entry : Tracked α × Nat}
    {claim : Claim α} (better : betterClaim ray best entry = some claim) :
    best = some claim ∨ Claims ray entry claim := by
  unfold betterClaim at better
  cases crossed : entry.1.disc.crossing? ray with
  | none =>
      rw [crossed] at better
      exact .inl better
  | some crossing =>
      rw [crossed] at better
      cases best with
      | none =>
          cases better
          exact .inr ⟨rfl, crossing, crossed, rfl⟩
      | some held =>
          dsimp only at better
          split at better
          · cases better
            exact .inr ⟨rfl, crossing, crossed, rfl⟩
          · exact .inl better

theorem foldl_betterClaim_eq_some {ray : Segment α} {entries : List (Tracked α × Nat)}
    {best : Option (Claim α)} {claim : Claim α}
    (found : entries.foldl (betterClaim ray) best = some claim) :
    best = some claim ∨ ∃ entry ∈ entries, Claims ray entry claim := by
  induction entries generalizing best with
  | nil => exact .inl found
  | cons entry rest ih =>
      rcases ih found with better | ⟨other, member, claims⟩
      · rcases betterClaim_eq_some better with same | here
        · exact .inl same
        · exact .inr ⟨entry, List.mem_cons_self, here⟩
      · exact .inr ⟨other, List.mem_cons_of_mem _ member, claims⟩

/-- A claim is by a live target that the ray crosses, and goes to the middle of the crossing. -/
theorem claim?_eq_some {targets : List (Tracked α)} {ray : Segment α} {claim : Claim α}
    (best : claim? targets ray = some claim) :
    ∃ target crossing, targets[claim.index]? = some target ∧
      target.disc.crossing? ray = some crossing ∧ claim.middle = crossing.midpoint := by
  rcases foldl_betterClaim_eq_some best with none | ⟨entry, member, index, crossing, crossed, middle⟩
  · cases none
  · rw [index]
    exact ⟨entry.1, crossing, List.mem_zipIdx_iff_getElem?.1 member, crossed, middle⟩

theorem offer_of_finite {plan : TrackerPlan α} {t : Tracker α} {now : Instant}
    {ray : Segment α} (finite : ray.isFinite = true) :
    t.offer plan now ray = .ok (t.offerFinite plan now ray) := by
  have passed := (requireFiniteEnds_eq_ok ray .offerStart .offerStop).2 finite
  rw [offer, passed]
  rfl

theorem isFinite_of_offer {plan : TrackerPlan α} {t : Tracker α} {now : Instant}
    {ray : Segment α} {offered : Bool × Tracker α}
    (done : t.offer plan now ray = .ok offered) : ray.isFinite = true := by
  simp only [offer, bind_eq_ok] at done
  obtain ⟨_, passed, _⟩ := done
  exact (requireFiniteEnds_eq_ok ray _ _).1 passed

theorem offer_eq_ok {plan : TrackerPlan α} {t after : Tracker α} {now : Instant}
    {ray : Segment α} {claimed : Bool} (offered : t.offer plan now ray = .ok (claimed, after)) :
    (claimed = false ∧ after = t ∧ claim? t.targets ray = none) ∨
      ∃ claim, claimed = true ∧ claim? t.targets ray = some claim ∧
        after = { t with
          targets := t.targets.modify claim.index fun target =>
            target.nudge claim.middle plan.sensitivity now } := by
  simp only [offer, offerFinite, bind_eq_ok] at offered
  obtain ⟨_, _, result⟩ := offered
  cases best : claim? t.targets ray with
  | none =>
      simp only [best, Except.ok.injEq, Prod.mk.injEq] at result
      exact .inl ⟨result.1.symm, result.2.symm, rfl⟩
  | some claim =>
      simp only [best, Except.ok.injEq, Prod.mk.injEq] at result
      exact .inr ⟨claim, result.1.symm, rfl, result.2.symm⟩

theorem claimed_iff {plan : TrackerPlan α} {t after : Tracker α} {now : Instant}
    {ray : Segment α} {claimed : Bool} (offered : t.offer plan now ray = .ok (claimed, after)) :
    claimed = true ↔ ∃ target ∈ t.targets, (target.disc.crossing? ray).isSome = true := by
  rw [← isSome_claim?]
  rcases offer_eq_ok offered with ⟨rfl, _, best⟩ | ⟨claim, rfl, best, _⟩ <;> simp [best]

/-! ## Merging -/

theorem overlappingPair?_eq_some {targets : List (Tracked α)} {slack : α}
    {first second : Tracked α × Nat}
    (found : overlappingPair? targets slack = some (first, second)) :
    targets[first.2]? = some first.1 ∧ targets[second.2]? = some second.1 ∧
      first.2 ≠ second.2 ∧ first.1.overlaps second.1.toTarget slack = true := by
  unfold overlappingPair? at found
  obtain ⟨entry, member, found⟩ := List.exists_of_findSome?_eq_some found
  rw [Option.map_eq_some_iff] at found
  obtain ⟨other, foundOther, pair⟩ := found
  cases pair
  have otherMember := List.mem_of_find?_eq_some foundOther
  have apart := List.find?_some foundOther
  simp only [Bool.and_eq_true, bne_iff_ne] at apart
  exact ⟨List.mem_zipIdx_iff_getElem?.1 member, List.mem_zipIdx_iff_getElem?.1 otherMember,
    apart.1, apart.2⟩

/-- A merge joins two targets at different places: the first moves to the middle and keeps all else,
the second goes. -/
theorem merge?_eq_some {plan : TrackerPlan α} {t after : Tracker α} {merge : Merge α}
    (merged : t.merge? plan = some (merge, after)) :
    ∃ first second : Tracked α × Nat,
      overlappingPair? t.targets plan.mergeSlack = some (first, second) ∧
        merge = ⟨first.1.id, second.1.id, (first.1.position + second.1.position).scale 0.5⟩ ∧
        after = { t with
          targets := (t.targets.modify first.2 (·.moveTo merge.position)).eraseIdx second.2 } := by
  unfold merge? at merged
  rw [Option.map_eq_some_iff] at merged
  obtain ⟨⟨first, second⟩, found, result⟩ := merged
  cases result
  exact ⟨first, second, found, rfl, rfl⟩

/-! ## Expiry -/

omit [Scalar α] in
theorem sift_eq_ok {now : Instant} :
    ∀ {targets kept : List (Tracked α)} {gone : List TargetId},
      sift now targets = .ok (kept, gone) →
        kept = targets.filter (fun target => !target.isStale now) ∧
          gone = (targets.filter (fun target => target.isStale now)).map (·.id) := by
  intro targets
  induction targets with
  | nil =>
      intro kept gone sifted
      cases sifted
      exact ⟨rfl, rfl⟩
  | cons target later ih =>
      intro kept gone sifted
      simp only [sift, bind_eq_ok] at sifted
      obtain ⟨expired, checked, ⟨laterKept, laterGone⟩, laterSifted, result⟩ := sifted
      obtain ⟨keptEq, goneEq⟩ := ih laterSifted
      have stale := Target.isExpired_eq_ok checked
      cases expired with
      | true =>
          cases result
          simp [← stale, keptEq, goneEq]
      | false =>
          cases result
          simp [← stale, keptEq, goneEq]

omit [Scalar α] in
/-- Expiry drops exactly the targets whose last instant has passed, and names them in order. -/
theorem expire_eq_ok {t after : Tracker α} {now : Instant} {gone : List TargetId}
    (expired : t.expire now = .ok (gone, after)) :
    gone = (t.targets.filter (fun target => target.isStale now)).map (·.id) ∧
      after = { t with targets := t.targets.filter (fun target => !target.isStale now) } := by
  simp only [expire, bind_eq_ok] at expired
  obtain ⟨⟨kept, ids⟩, sifted, result⟩ := expired
  obtain ⟨keptEq, goneEq⟩ := sift_eq_ok sifted
  cases result
  exact ⟨goneEq, by rw [keptEq]⟩

/-! ## Spawning -/

theorem isFinite_of_spawn {plan : TrackerPlan α} {t : Tracker α} {now : Instant}
    {candidate : Point α} {spawned : SpawnVerdict × Tracker α}
    (done : t.spawn plan now candidate = .ok spawned) : candidate.isFinite = true := by
  simp only [spawn, requireFinite, bind_eq_ok] at done
  obtain ⟨_, passed, _⟩ := done
  split at passed
  · assumption
  · cases passed

theorem spawn_of_clear {plan : TrackerPlan α} {t : Tracker α} {now : Instant} (target : Target α)
    (isNew : target = ⟨target.position, plan.radius, plan.ttl, now⟩)
    (finite : target.position.isFinite = true)
    (noCamera : ∀ camera ∈ plan.cameras,
      target.disc.overlaps ⟨camera, plan.radius⟩ plan.spawnSlack = false)
    (noTarget : ∀ other ∈ t.targets, target.overlaps other.toTarget plan.spawnSlack = false) :
    t.spawn plan now target.position = .ok (.spawned t.issuer.next.1,
      ⟨t.targets ++ [⟨target, t.issuer.next.1⟩], t.issuer.next.2⟩) := by
  have cameras : (plan.cameras.any fun camera =>
      target.disc.overlaps ⟨camera, plan.radius⟩ plan.spawnSlack) = false := by
    simpa [List.any_eq_false] using noCamera
  have targets :
      (t.targets.any fun other => target.overlaps other.toTarget plan.spawnSlack) = false := by
    simpa [List.any_eq_false] using noTarget
  simp only [spawn, requireFinite, finite, spawnFinite, ← isNew, cameras, targets]
  rfl

/-- A candidate is set behind the live targets under the next serial number, or nothing changes. -/
theorem spawn_eq_ok {plan : TrackerPlan α} {t after : Tracker α} {now : Instant}
    {candidate : Point α} {verdict : SpawnVerdict}
    (spawned : t.spawn plan now candidate = .ok (verdict, after)) :
    (verdict.id? = none ∧ after = t) ∨
      (verdict = .spawned t.issuer.next.1 ∧
        after = ⟨t.targets ++ [⟨⟨candidate, plan.radius, plan.ttl, now⟩, t.issuer.next.1⟩],
          t.issuer.next.2⟩) := by
  simp only [spawn, bind_eq_ok] at spawned
  obtain ⟨_, _, result⟩ := spawned
  simp only [spawnFinite] at result
  split at result
  · cases result
    exact .inl ⟨rfl, rfl⟩
  · split at result
    · cases result
      exact .inl ⟨rfl, rfl⟩
    · cases result
      exact .inr ⟨rfl, rfl⟩

end Tracker

end Sightline
