import PluginHost.Plugin.Sample
import PluginHost.Proofs.Plugin.Configured
import PluginHost.Proofs.Settings.Validity

/-!
The plan that settings ask for. Settings without violations have one, in which each directory entry and
the fallback stand as they are written; only an exclude pattern that cannot be read leaves settings
without a plan, and it is reported as a violation.
-/
namespace PluginHost

structure ManagerSettings.Selects (m : ManagerSettings) (policy : Option FallbackPolicy) : Prop where
  none : m.fallbackStrategy = .none → policy = .none
  designated : m.fallbackStrategy = .designated →
    ∃ id, m.fallbackPlugin = some id ∧ Text.isBlank id = false ∧ policy = some fun _ _ _ => some id
  firstAvailable : m.fallbackStrategy = .firstAvailable →
    policy = some (.firstAvailable m.fallbackProvider)

namespace Settings

variable {s : Settings}

theorem selects_of_no_violations (h : s.violations = []) :
    s.manager.Selects (FallbackPolicy.ofSettings s.manager) := by
  unfold FallbackPolicy.ofSettings
  refine ⟨fun hstrategy => ?_, fun hstrategy => ?_, fun hstrategy => ?_⟩
  · rw [hstrategy]
  · obtain ⟨id, hid, hblank⟩ := fallbackPlugin_of_no_violations h hstrategy
    rw [hstrategy, hid]
    exact ⟨id, rfl, hblank, rfl⟩
  · rw [hstrategy]

def Unreadable (s : Settings) (pattern : String) (fault : PatternFault) : Prop :=
  s.discovery.excludePattern = some pattern ∧ Pattern.ofText pattern = .error fault

theorem exclusion_eq_error_iff {e : PluginError} : s.exclusion = .error e ↔
    ∃ pattern fault, s.Unreadable pattern fault ∧ e = .settings (.badExcludePattern pattern fault) := by
  unfold exclusion Unreadable
  cases s.discovery.excludePattern with
  | none => simp
  | some text =>
    cases hread : Pattern.ofText text with
    | ok pattern => simp only [hread]; grind
    | error fault => simp only [hread]; grind

theorem ofSettings_eq_error_iff {σ π : Type} {e : PluginError} :
    (ManagerPlan.ofSettings s : Except PluginError (ManagerPlan σ π)) = .error e ↔
      s.exclusion = .error e := by
  rw [ofSettings_eq]
  cases s.exclusion <;> simp [Except.map]

/-- Settings without violations have a plan. Its directories are the entries as they are written, and
its fallback is the one that the strategy names. All other settings have a plan too, up to those with
an exclude pattern that cannot be read: the plan fails with that, and it is among their violations. -/
theorem planned_as_written {σ π : Type} (s : Settings) :
    (s.violations = [] →
      (∃ plan : ManagerPlan σ π, ManagerPlan.ofSettings s = .ok plan ∧
        plan.directories = s.discovery.directorySet ∧
        plan.fallback = FallbackPolicy.ofSettings s.manager) ∧
      s.discovery.directorySet.entries = s.discovery.directories.map (fun d => (d.provider, d.paths)) ∧
      s.manager.Selects (FallbackPolicy.ofSettings s.manager)) ∧
    (∀ e, (ManagerPlan.ofSettings s : Except PluginError (ManagerPlan σ π)) = .error e ↔
      ∃ pattern fault, s.Unreadable pattern fault ∧
        e = .settings (.badExcludePattern pattern fault)) ∧
    ∀ pattern fault, s.Unreadable pattern fault ↔
      .badExcludePattern pattern fault ∈ s.violations := by
  refine ⟨fun h => ⟨?_, ?_, selects_of_no_violations h⟩, fun e => ?_, fun pattern fault => ?_⟩
  · obtain ⟨exclude, hexclude⟩ := exists_exclusion h
    refine ⟨s.planWith exclude, ?_, rfl, rfl⟩
    rw [ofSettings_eq, hexclude]
    rfl
  · obtain ⟨hcomplete, hdistinct⟩ := directories_of_no_violations h
    exact DiscoverySettings.entries_directorySet hdistinct fun d hd => (hcomplete d hd).paths
  · rw [ofSettings_eq_error_iff, exclusion_eq_error_iff]
  · exact badExcludePattern_mem_violations_iff.symm

def siteSettings : Settings where
  discovery :=
    { excludePattern := some "/tests?/"
      directories := [{ provider := "core", paths := [⟨"core/plugins"⟩] },
        { provider := "site", paths := [⟨"site/b"⟩, ⟨"site/a"⟩] }] }
  manager := { fallbackStrategy := .designated, fallbackPlugin := some "broken" }

/-- Two providers, one of them with two directories, and a designated fallback. -/
theorem siteSettings_planned :
    siteSettings.violations = [] ∧
      (∃ plan : ManagerPlan Workspace SamplePlugin, ManagerPlan.ofSettings siteSettings = .ok plan ∧
        plan.directories.entries =
          [("core", [⟨"core/plugins"⟩]), ("site", [⟨"site/b"⟩, ⟨"site/a"⟩])] ∧
        plan.fallback = some fun _ _ _ => some "broken") := by
  have hvalid : siteSettings.violations = [] := by decide +kernel
  obtain ⟨⟨plan, hplan, hdirectories, hfallback⟩, hentries, hselects⟩ :=
    (@planned_as_written Workspace SamplePlugin siteSettings).1 hvalid
  obtain ⟨id, hid, -, hpolicy⟩ := hselects.designated rfl
  obtain rfl : "broken" = id := Option.some.inj hid
  refine ⟨hvalid, plan, hplan, ?_, hfallback.trans hpolicy⟩
  rw [hdirectories, hentries]
  rfl

end Settings

end PluginHost
