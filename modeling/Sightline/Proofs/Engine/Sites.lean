import Sightline.Engine

/-!
# Sites that were set up

A site is set up from settings that pass their check, whose rectangle can be cut into cells; it
keeps the settings, and its evidence goes by them.
-/

set_option autoImplicit false

namespace Sightline

variable {α : Type} [Scalar α] {settings : Settings α} {installation : Installation α}
  {site : Site α}

/-- Everything that the check of settings asks for. -/
structure Settings.Sound (s : Settings α) : Prop where
  roomy : s.bounds.isOpen = true
  columns : 0 < s.columns
  rows : 0 < s.rows
  retention : s.retentionFits = true
  positive : ∀ entry ∈ s.positives, Scalar.isPositive entry.2 = true
  period : 0 < s.spawnPeriod

theorem Settings.problem?_eq_none : settings.problem? = none ↔ settings.Sound := by
  constructor
  · intro none
    unfold problem? at none
    split at none
    · cases none
    rename_i roomy
    split at none
    · cases none
    rename_i cells
    split at none
    · cases none
    rename_i retention
    split at none
    · cases none
    rename_i positive
    split at none
    · cases none
    rename_i period
    simp only [Bool.or_eq_true, decide_eq_true_eq, not_or] at cells
    refine ⟨by simpa using roomy, by omega, by omega, by simpa using retention, ?_, by omega⟩
    intro entry member
    simpa using List.find?_eq_none.1 positive entry member
  · intro sound
    have noneBad : settings.positives.find? (fun entry => !Scalar.isPositive entry.2) = none :=
      List.find?_eq_none.2 fun entry member => by simp [sound.positive entry member]
    simp [problem?, sound.roomy, Nat.ne_of_gt sound.columns, Nat.ne_of_gt sound.rows,
      sound.retention, noneBad, Nat.ne_of_gt sound.period]

theorem Settings.checked_eq_ok {s result : Settings α} :
    s.checked = .ok result ↔ result = s ∧ result.problem? = none := by
  unfold checked
  constructor
  · intro passed
    split at passed
    · cases passed
    · rename_i none
      cases passed
      exact ⟨rfl, none⟩
  · rintro ⟨rfl, none⟩
    rw [none]

theorem Tiling.of_cut {bounds : Bounds α} {columns rows : Nat} {t : Tiling α}
    (done : cut bounds columns rows = .ok t) :
    t.bounds = bounds ∧ t.columns = columns ∧ t.rows = rows := by
  unfold cut at done
  split at done
  · split at done
    · cases done
      exact ⟨rfl, rfl, rfl⟩
    · cases done
  · cases done

namespace Site

theorem of_create (made : Site.create settings installation = .ok site) :
    settings.Sound ∧ ∃ tiling, Tiling.cut settings.bounds settings.columns settings.rows = .ok tiling ∧
      site = ⟨settings, installation,
        ⟨tiling, settings.increment, settings.retention, settings.maskThreshold⟩⟩ := by
  simp only [create, EvidencePlan.ofSettings, bind_eq_ok] at made
  obtain ⟨checked, passed, plan, ⟨tiling, tiled, planned⟩, result⟩ := made
  obtain ⟨rfl, none⟩ := Settings.checked_eq_ok.1 passed
  cases planned
  cases result
  exact ⟨Settings.problem?_eq_none.1 none, tiling, tiled, rfl⟩

/-- A site set up from sound settings. -/
structure Follows (site : Site α) (settings : Settings α) (installation : Installation α) :
    Prop where
  sound : settings.Sound
  sameSettings : site.settings = settings
  sameInstallation : site.installation = installation
  bounds : site.evidencePlan.tiling.bounds = settings.bounds
  increment : site.evidencePlan.increment = settings.increment
  retention : site.evidencePlan.retention = settings.retention

theorem follows_of_create (made : Site.create settings installation = .ok site) :
    site.Follows settings installation := by
  obtain ⟨sound, tiling, tiled, rfl⟩ := of_create made
  exact ⟨sound, rfl, rfl, (Tiling.of_cut tiled).1, rfl, rfl⟩

theorem ofSettings_of_create (made : Site.create settings installation = .ok site) :
    EvidencePlan.ofSettings settings = .ok site.evidencePlan := by
  obtain ⟨_, tiling, tiled, rfl⟩ := of_create made
  rw [EvidencePlan.ofSettings, tiled]
  rfl

end Site

end Sightline
