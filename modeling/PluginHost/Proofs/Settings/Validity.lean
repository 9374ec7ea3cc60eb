import PluginHost.Settings.Violation

/-!
What is known of settings without violations, and when the exclude pattern is among the violations.
-/
namespace PluginHost.Settings

open Text

theorem listIf_eq_nil_iff {violated : Bool} {v : Violation} :
    listIf violated v = [] ↔ violated = false := by
  cases violated <;> simp [listIf]

theorem mem_listIf_iff {violated : Bool} {v w : Violation} :
    w ∈ listIf violated v ↔ violated = true ∧ w = v := by
  cases violated <;> simp [listIf]

structure Complete (d : DirectorySettings) : Prop where
  provider : isBlank d.provider = false
  paths : d.paths ≠ []

theorem directoryViolations_eq_nil_iff {seen : List String} {index : Nat}
    {ds : List DirectorySettings} :
    directoryViolations seen index ds = [] ↔
      (∀ d ∈ ds, Complete d ∧ d.provider ∉ seen) ∧
        (ds.map DirectorySettings.provider).Nodup := by
  induction ds generalizing seen index with
  | nil => simp [directoryViolations]
  | cons d rest ih =>
    have hfirst : (if isBlank d.provider then [.blankProvider index]
          else listIf (seen.contains d.provider) (.duplicateProvider d.provider)) = [] ∧
        listIf d.paths.isEmpty (.noPaths index) = [] ↔ Complete d ∧ d.provider ∉ seen := by
      constructor
      · rintro ⟨hprovider, hpaths⟩
        split at hprovider
        · cases hprovider
        · next hblank =>
          exact ⟨⟨Bool.not_eq_true _ ▸ hblank, by simpa [listIf_eq_nil_iff] using hpaths⟩,
            by simpa [listIf_eq_nil_iff] using hprovider⟩
      · rintro ⟨⟨hblank, hpaths⟩, hseen⟩
        simp [hblank, hpaths, hseen, listIf_eq_nil_iff]
    rw [directoryViolations, List.append_eq_nil_iff, List.append_eq_nil_iff, hfirst, ih]
    simp only [List.map_cons, List.nodup_cons, List.mem_cons, not_or,
      List.mem_map, not_exists, not_and]
    grind

variable {s : Settings}

theorem directories_of_no_violations (h : s.violations = []) :
    (∀ d ∈ s.discovery.directories, Complete d) ∧
      (s.discovery.directories.map DirectorySettings.provider).Nodup := by
  unfold violations discoveryViolations at h
  simp only [List.append_eq_nil_iff] at h
  obtain ⟨⟨⟨⟨-, hdirectories⟩, -⟩, -⟩, -⟩ := h
  obtain ⟨hcomplete, hdistinct⟩ := directoryViolations_eq_nil_iff.1 hdirectories
  exact ⟨fun d hd => (hcomplete d hd).1, hdistinct⟩

theorem fallbackPlugin_of_no_violations (h : s.violations = [])
    (hdesignated : s.manager.fallbackStrategy = .designated) :
    ∃ id, s.manager.fallbackPlugin = some id ∧ isBlank id = false := by
  unfold violations managerViolations at h
  simp only [List.append_eq_nil_iff, listIf_eq_nil_iff] at h
  obtain ⟨⟨-, hplugin, -⟩, -⟩ := h
  rw [hdesignated] at hplugin
  cases hid : s.manager.fallbackPlugin with
  | none => simp [hid] at hplugin
  | some id => exact ⟨id, rfl, by simpa [hid] using hplugin⟩

/-! Only the check of the exclude pattern reports it. -/

variable {pattern : String} {fault : PatternFault}

theorem badExcludePattern_not_mem_directoryViolations {seen : List String} {index : Nat}
    {ds : List DirectorySettings} :
    .badExcludePattern pattern fault ∉ directoryViolations seen index ds := by
  induction ds generalizing seen index with
  | nil => exact List.not_mem_nil
  | cons d rest ih =>
    unfold directoryViolations
    split <;> simp [mem_listIf_iff, ih]

theorem badExcludePattern_not_mem_installedViolations {index : Nat} {providers : List String} :
    .badExcludePattern pattern fault ∉ installedViolations index providers := by
  induction providers generalizing index with
  | nil => exact List.not_mem_nil
  | cons p rest ih => simp [installedViolations, mem_listIf_iff, ih]

theorem badExcludePattern_mem_violations_iff :
    .badExcludePattern pattern fault ∈ s.violations ↔
      s.discovery.excludePattern = some pattern ∧ Pattern.ofText pattern = .error fault := by
  unfold violations discoveryViolations managerViolations
  simp only [List.mem_append, mem_listIf_iff, badExcludePattern_not_mem_directoryViolations,
    badExcludePattern_not_mem_installedViolations, reduceCtorEq, and_false, or_false, false_or]
  cases s.discovery.excludePattern with
  | none => simp
  | some text =>
    cases hread : Pattern.ofText text with
    | ok read => simp only [hread]; grind
    | error e => simp only [hread]; grind

end PluginHost.Settings
