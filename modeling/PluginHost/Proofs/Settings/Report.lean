import PluginHost.Proofs.Settings.Validity
import PluginHost.Settings.Hierarchy

/-!
What a refusal of settings says. Settings keep or break rules, of which some come once for each entry
of a list; the report goes through the broken rules in the order of their places and says of each how
it is broken, so that none is left out or reported twice.
-/
namespace PluginHost.Settings

open Text

/-- What is asked of settings. `provider`, `paths` and `installed` are asked of each entry. -/
inductive Rule
  | suffix
  | idKey
  | excludePattern
  | provider (index : Nat)
  | paths (index : Nat)
  | keySuffix
  | fallbackPlugin
  | installed (index : Nat)
  | level

namespace Rule

def check : Rule → Nat
  | suffix => 0
  | idKey => 1
  | excludePattern => 2
  | provider _ | paths _ => 3
  | keySuffix => 4
  | fallbackPlugin => 5
  | installed _ => 6
  | level => 7

/-- Where a rule stands in a report: checks one after the other, and within one the entries in order,
each with its provider first. -/
def place (rule : Rule) : List Nat :=
  rule.check :: match rule with
    | provider index => [index, 0]
    | paths index => [index, 1]
    | installed index => [index]
    | _ => []

def Before (a b : Rule) : Prop := a.place < b.place

theorem before_of_check_lt {a b : Rule} (h : a.check < b.check) : Before a b :=
  List.cons_lt_cons_iff.2 (.inl h)

theorem provider_before_paths (index : Nat) : Before (provider index) (paths index) := by
  simp [Before, place, check, List.cons_lt_cons_iff]

theorem before_of_entry_lt {a b : Rule} {i j : Nat} (ha : a = provider i ∨ a = paths i) (h : i < j)
    (hb : b = provider j ∨ b = paths j) : Before a b := by
  rcases ha with rfl | rfl <;> rcases hb with rfl | rfl <;>
    simp [Before, place, check, List.cons_lt_cons_iff, h]

theorem installed_before {i j : Nat} (h : i < j) : Before (installed i) (installed j) := by
  simp [Before, place, check, List.cons_lt_cons_iff, h]

end Rule

/-- The settings break a rule, and this is said of it. -/
inductive Breaks (s : Settings) : Rule → Violation → Prop
  | suffix {text : String} (given : s.discovery.fileSuffix = some text)
      (blank : isBlank text = true) :
      Breaks s .suffix .blankSuffix
  | idKey (blank : isBlank s.discovery.idKey = true) : Breaks s .idKey .blankIdKey
  | excludePattern {pattern : String} {fault : PatternFault}
      (given : s.discovery.excludePattern = some pattern)
      (unread : Pattern.ofText pattern = .error fault) :
      Breaks s .excludePattern (.badExcludePattern pattern fault)
  | blankProvider {index : Nat} {d : DirectorySettings}
      (here : s.discovery.directories[index]? = some d) (blank : isBlank d.provider = true) :
      Breaks s (.provider index) (.blankProvider index)
  | duplicateProvider {index earlier : Nat} {d e : DirectorySettings}
      (here : s.discovery.directories[index]? = some d) (named : isBlank d.provider = false)
      (first : earlier < index) (there : s.discovery.directories[earlier]? = some e)
      (same : e.provider = d.provider) :
      Breaks s (.provider index) (.duplicateProvider d.provider)
  | paths {index : Nat} {d : DirectorySettings}
      (here : s.discovery.directories[index]? = some d) (none : d.paths = []) :
      Breaks s (.paths index) (.noPaths index)
  | keySuffix (enabled : s.cache.enabled = true) (blank : isBlank s.cache.keySuffix = true) :
      Breaks s .keySuffix .blankKeySuffix
  | fallbackPlugin (designated : s.manager.fallbackStrategy = .designated)
      (missing : ∀ id, s.manager.fallbackPlugin = some id → isBlank id = true) :
      Breaks s .fallbackPlugin .fallbackPluginMissing
  | installed {index : Nat} {providers : List String} {provider : String}
      (given : s.manager.installedProviders = some providers)
      (here : providers[index]? = some provider) (blank : isBlank provider = true) :
      Breaks s (.installed index) (.blankInstalled index)
  | level (unknown : isLevel s.logging.level = false) :
      Breaks s .level (.badLevel s.logging.level)

variable {s : Settings} {part other : Rule → Prop} {vs ws : List Violation}

/-- `vs` goes through the broken rules of a part in order, and says of each how it is broken. -/
def Reports (s : Settings) (part : Rule → Prop) (vs : List Violation) : Prop :=
  ∃ report : List (Rule × Violation), report.map Prod.snd = vs ∧
    report.Pairwise (fun a b => a.1.Before b.1) ∧
    ∀ rule v, (rule, v) ∈ report ↔ part rule ∧ Breaks s rule v

namespace Reports

theorem congr (h : Reports s part vs) (hpart : ∀ rule, part rule ↔ other rule) :
    Reports s other vs := by
  obtain ⟨report, hsaid, hordered, hbroken⟩ := h
  exact ⟨report, hsaid, hordered, fun rule v => by rw [hbroken, hpart]⟩

theorem append (h : Reports s part vs) (h' : Reports s other ws)
    (hbefore : ∀ a b, part a → other b → a.Before b) :
    Reports s (fun rule => part rule ∨ other rule) (vs ++ ws) := by
  obtain ⟨report, rfl, hordered, hbroken⟩ := h
  obtain ⟨report', rfl, hordered', hbroken'⟩ := h'
  refine ⟨report ++ report', List.map_append,
    List.pairwise_append.2 ⟨hordered, hordered', ?_⟩, fun rule v => ?_⟩
  · intro a ha b hb
    exact hbefore _ _ ((hbroken a.1 a.2).1 ha).1 ((hbroken' b.1 b.2).1 hb).1
  · rw [List.mem_append, hbroken, hbroken', or_and_right]

theorem of_not_broken (h : ∀ rule, part rule → ∀ v, ¬Breaks s rule v) : Reports s part [] := by
  refine ⟨[], rfl, List.Pairwise.nil, fun rule v => ⟨nofun, ?_⟩⟩
  rintro ⟨hpart, hv⟩
  exact absurd hv (h rule hpart v)

theorem of_broken {rule : Rule} {v : Violation} (h : ∀ w, Breaks s rule w ↔ w = v) :
    Reports s (· = rule) [v] := by
  refine ⟨[(rule, v)], rfl, List.pairwise_singleton _ _, fun other w => ?_⟩
  rw [List.mem_singleton, Prod.mk.injEq]
  refine and_congr_right ?_
  rintro rfl
  exact (h w).symm

theorem of_listIf {rule : Rule} {violated : Bool} {v : Violation}
    (h : ∀ w, Breaks s rule w ↔ violated = true ∧ w = v) :
    Reports s (· = rule) (listIf violated v) := by
  cases violated with
  | false =>
    apply of_not_broken
    rintro _ rfl w hw
    exact Bool.noConfusion ((h w).1 hw).1
  | true => exact of_broken fun w => (h w).trans (and_iff_right rfl)

theorem of_single {n : Nat} {rule : Rule} (h : Reports s (· = rule) vs)
    (hcheck : ∀ r : Rule, r.check = n ↔ r = rule) : Reports s (·.check = n) vs :=
  h.congr fun r => (hcheck r).symm

theorem next {n : Nat} (h : Reports s (·.check < n) vs) (h' : Reports s (·.check = n) ws) :
    Reports s (·.check < n + 1) (vs ++ ws) := by
  refine (h.append h' fun a b ha hb => Rule.before_of_check_lt ?_).congr fun rule => ?_
  · exact hb ▸ ha
  · exact Nat.lt_succ_iff_lt_or_eq.symm

end Reports

theorem Reports.cons (asked : Nat → Rule → Prop) {index : Nat} (h : Reports s (asked index) vs)
    (h' : Reports s (fun rule => ∃ i, index + 1 ≤ i ∧ asked i rule) ws)
    (hbefore : ∀ a b i, asked index a → index < i → asked i b → a.Before b) :
    Reports s (fun rule => ∃ i, index ≤ i ∧ asked i rule) (vs ++ ws) := by
  refine (h.append h' ?_).congr fun rule => ?_
  · rintro a b ha ⟨i, hi, hb⟩
    exact hbefore a b i ha hi hb
  · constructor
    · rintro (hrule | ⟨i, hi, hrule⟩)
      · exact ⟨index, Nat.le_refl _, hrule⟩
      · exact ⟨i, Nat.le_of_succ_le hi, hrule⟩
    · rintro ⟨i, hi, hrule⟩
      rcases Nat.lt_or_eq_of_le hi with hi | rfl
      · exact .inr ⟨i, hi, hrule⟩
      · exact .inl hrule

/-! When each rule is broken, as the checks ask it. -/

section Checks

variable {w : Violation} {index : Nat} {d : DirectorySettings} {p : String}

theorem breaks_suffix_iff :
    Breaks s .suffix w ↔ s.discovery.fileSuffix.any isBlank = true ∧ w = .blankSuffix := by
  constructor
  · intro hw
    cases hw with
    | suffix given blank => exact ⟨by rw [given]; exact blank, rfl⟩
  · rintro ⟨hblank, rfl⟩
    cases hgiven : s.discovery.fileSuffix with
    | none => simp [hgiven] at hblank
    | some text => exact .suffix hgiven (by simpa [hgiven] using hblank)

theorem breaks_idKey_iff :
    Breaks s .idKey w ↔ isBlank s.discovery.idKey = true ∧ w = .blankIdKey := by
  constructor
  · intro hw
    cases hw with
    | idKey blank => exact ⟨blank, rfl⟩
  · rintro ⟨hblank, rfl⟩
    exact .idKey hblank

theorem breaks_excludePattern_iff :
    Breaks s .excludePattern w ↔ ∃ pattern fault, s.discovery.excludePattern = some pattern ∧
      Pattern.ofText pattern = .error fault ∧ w = .badExcludePattern pattern fault := by
  constructor
  · intro hw
    cases hw with
    | excludePattern given unread => exact ⟨_, _, given, unread, rfl⟩
  · rintro ⟨pattern, fault, hgiven, hread, rfl⟩
    exact .excludePattern hgiven hread

def NamedBefore (s : Settings) (index : Nat) (provider : String) : Prop :=
  ∃ j < index, ∃ e, s.discovery.directories[j]? = some e ∧ e.provider = provider

theorem breaks_provider_iff (hd : s.discovery.directories[index]? = some d) :
    Breaks s (.provider index) w ↔
      (isBlank d.provider = true ∧ w = .blankProvider index) ∨
        (isBlank d.provider = false ∧ NamedBefore s index d.provider ∧
          w = .duplicateProvider d.provider) := by
  constructor
  · intro hw
    cases hw with
    | blankProvider here blank =>
      cases hd.symm.trans here
      exact .inl ⟨blank, rfl⟩
    | duplicateProvider here named first there same =>
      cases hd.symm.trans here
      exact .inr ⟨named, ⟨_, first, _, there, same⟩, rfl⟩
  · rintro (⟨hblank, rfl⟩ | ⟨hnamed, ⟨j, hj, e, he, hsame⟩, rfl⟩)
    · exact .blankProvider hd hblank
    · exact .duplicateProvider hd hnamed hj he hsame

theorem breaks_paths_iff (hd : s.discovery.directories[index]? = some d) :
    Breaks s (.paths index) w ↔ d.paths.isEmpty = true ∧ w = .noPaths index := by
  constructor
  · intro hw
    cases hw with
    | paths here none =>
      cases hd.symm.trans here
      exact ⟨List.isEmpty_iff.2 none, rfl⟩
  · rintro ⟨hnone, rfl⟩
    exact .paths hd (List.isEmpty_iff.1 hnone)

theorem breaks_keySuffix_iff :
    Breaks s .keySuffix w ↔
      (s.cache.enabled && isBlank s.cache.keySuffix) = true ∧ w = .blankKeySuffix := by
  rw [Bool.and_eq_true]
  constructor
  · intro hw
    cases hw with
    | keySuffix enabled blank => exact ⟨⟨enabled, blank⟩, rfl⟩
  · rintro ⟨⟨henabled, hblank⟩, rfl⟩
    exact .keySuffix henabled hblank

theorem breaks_fallbackPlugin_iff :
    Breaks s .fallbackPlugin w ↔
      (s.manager.fallbackStrategy == .designated && s.manager.fallbackPlugin.all isBlank) = true ∧
        w = .fallbackPluginMissing := by
  rw [Bool.and_eq_true, beq_iff_eq, Option.all_eq_true]
  constructor
  · intro hw
    cases hw with
    | fallbackPlugin designated missing => exact ⟨⟨designated, missing⟩, rfl⟩
  · rintro ⟨⟨hdesignated, hmissing⟩, rfl⟩
    exact .fallbackPlugin hdesignated hmissing

theorem breaks_installed_iff (hp : (s.manager.installedProviders.getD [])[index]? = some p) :
    Breaks s (.installed index) w ↔ isBlank p = true ∧ w = .blankInstalled index := by
  constructor
  · intro hw
    cases hw with
    | installed given here blank =>
      rw [given] at hp
      cases hp.symm.trans here
      exact ⟨blank, rfl⟩
  · rintro ⟨hblank, rfl⟩
    cases hgiven : s.manager.installedProviders with
    | none => simp [hgiven] at hp
    | some providers =>
      rw [hgiven] at hp
      exact .installed hgiven hp hblank

theorem breaks_level_iff :
    Breaks s .level w ↔ (!isLevel s.logging.level) = true ∧ w = .badLevel s.logging.level := by
  rw [Bool.not_eq_true']
  constructor
  · intro hw
    cases hw with
    | level unknown => exact ⟨unknown, rfl⟩
  · rintro ⟨hunknown, rfl⟩
    exact .level hunknown

end Checks

theorem reports_excludePattern :
    Reports s (· = .excludePattern)
      (match s.discovery.excludePattern with
        | some p =>
          match Pattern.ofText p with
          | .error fault => [.badExcludePattern p fault]
          | .ok _ => []
        | none => []) := by
  split
  · next p hgiven =>
    split
    · next fault hread =>
      refine Reports.of_broken fun w => ?_
      rw [breaks_excludePattern_iff]
      simp [hgiven, hread]
    · next read hread =>
      apply Reports.of_not_broken
      rintro _ rfl v hv
      obtain ⟨pattern, fault, hpattern, hfault, -⟩ := breaks_excludePattern_iff.1 hv
      cases hgiven.symm.trans hpattern
      cases hread.symm.trans hfault
  · next hnone =>
    apply Reports.of_not_broken
    rintro _ rfl v hv
    obtain ⟨pattern, fault, hpattern, -⟩ := breaks_excludePattern_iff.1 hv
    cases hnone.symm.trans hpattern

theorem reports_directory {seen : List String} {index : Nat} {d : DirectorySettings}
    (hd : s.discovery.directories[index]? = some d)
    (hseen : d.provider ∈ seen ↔ NamedBefore s index d.provider) :
    Reports s (fun rule => rule = .provider index ∨ rule = .paths index)
      ((if isBlank d.provider then [.blankProvider index]
          else listIf (seen.contains d.provider) (.duplicateProvider d.provider)) ++
        listIf d.paths.isEmpty (.noPaths index)) := by
  have hprovider : Reports s (· = .provider index)
      (if isBlank d.provider then [.blankProvider index]
        else listIf (seen.contains d.provider) (.duplicateProvider d.provider)) := by
    split
    · next hblank =>
      refine Reports.of_broken fun w => ?_
      rw [breaks_provider_iff hd]
      simp [hblank]
    · next hnamed =>
      refine Reports.of_listIf fun w => ?_
      rw [breaks_provider_iff hd, ← hseen]
      simp [hnamed]
  have hpaths : Reports s (· = .paths index) (listIf d.paths.isEmpty (.noPaths index)) :=
    Reports.of_listIf fun w => breaks_paths_iff hd
  apply hprovider.append hpaths
  rintro _ _ rfl rfl
  exact Rule.provider_before_paths index

theorem reports_directories {seen : List String} {index : Nat} {ds : List DirectorySettings}
    (hds : ∀ i, s.discovery.directories[index + i]? = ds[i]?)
    (hseen : ∀ provider, provider ∈ seen ↔ NamedBefore s index provider) :
    Reports s (fun rule => ∃ i, index ≤ i ∧ (rule = .provider i ∨ rule = .paths i))
      (directoryViolations seen index ds) := by
  induction ds generalizing seen index with
  | nil =>
    have hnone : ∀ i, index ≤ i → s.discovery.directories[i]? = none := by
      intro i hi
      simpa [Nat.add_sub_cancel' hi] using hds (i - index)
    apply Reports.of_not_broken
    rintro _ ⟨i, hi, rfl | rfl⟩ v hv
    · cases hv with
      | blankProvider here | duplicateProvider here => cases (hnone i hi).symm.trans here
    · cases hv with
      | paths here => cases (hnone i hi).symm.trans here
  | cons d rest ih =>
    have hd : s.discovery.directories[index]? = some d := by simpa using hds 0
    have hmore : ∀ provider,
        provider ∈ d.provider :: seen ↔ NamedBefore s (index + 1) provider := by
      intro provider
      rw [List.mem_cons, hseen]
      constructor
      · rintro (rfl | ⟨j, hj, he⟩)
        · exact ⟨index, Nat.lt_succ_self _, d, hd, rfl⟩
        · exact ⟨j, Nat.lt_succ_of_lt hj, he⟩
      · rintro ⟨j, hj, e, he, rfl⟩
        rcases Nat.lt_succ_iff_lt_or_eq.1 hj with hj | rfl
        · exact .inr ⟨j, hj, e, he, rfl⟩
        · cases hd.symm.trans he
          exact .inl rfl
    have hlater : ∀ i, s.discovery.directories[index + 1 + i]? = rest[i]? := fun i => by
      simpa [Nat.add_assoc, Nat.add_comm 1] using hds (i + 1)
    refine (reports_directory hd (hseen d.provider)).cons
      (fun i rule => rule = .provider i ∨ rule = .paths i) (ih hlater hmore) ?_
    rintro a b i ha hi hb
    exact Rule.before_of_entry_lt ha hi hb

theorem reports_installed {index : Nat} {providers : List String}
    (h : ∀ i, (s.manager.installedProviders.getD [])[index + i]? = providers[i]?) :
    Reports s (fun rule => ∃ i, index ≤ i ∧ rule = .installed i)
      (installedViolations index providers) := by
  induction providers generalizing index with
  | nil =>
    apply Reports.of_not_broken
    rintro _ ⟨i, hi, rfl⟩ v hv
    cases hv with
    | installed given here =>
      have hnone := h (i - index)
      rw [given, Nat.add_sub_cancel' hi] at hnone
      cases here.symm.trans hnone
  | cons p rest ih =>
    have hp : (s.manager.installedProviders.getD [])[index]? = some p := by simpa using h 0
    have hfirst : Reports s (· = .installed index) (listIf (isBlank p) (.blankInstalled index)) :=
      Reports.of_listIf fun w => breaks_installed_iff hp
    have hlater : ∀ i, (s.manager.installedProviders.getD [])[index + 1 + i]? = rest[i]? :=
      fun i => by simpa [Nat.add_assoc, Nat.add_comm 1] using h (i + 1)
    refine hfirst.cons (fun i rule => rule = .installed i) (ih hlater) ?_
    rintro _ _ i rfl hi rfl
    exact Rule.installed_before hi

theorem reports_violations (s : Settings) : Reports s (fun _ => True) s.violations := by
  have hstart : Reports s (·.check < 0) [] :=
    Reports.of_not_broken fun _ h => absurd h (Nat.not_lt_zero _)
  have hsuffix : Reports s (·.check = 0)
      (listIf (s.discovery.fileSuffix.any isBlank) .blankSuffix) :=
    .of_single (.of_listIf fun _ => breaks_suffix_iff) fun r => by cases r <;> simp [Rule.check]
  have hidKey : Reports s (·.check = 1) (listIf (isBlank s.discovery.idKey) .blankIdKey) :=
    .of_single (.of_listIf fun _ => breaks_idKey_iff) fun r => by cases r <;> simp [Rule.check]
  have hpattern := reports_excludePattern (s := s)
    |>.of_single (n := 2) fun r => by cases r <;> simp [Rule.check]
  have hdirectories : Reports s (·.check = 3) (directoryViolations [] 0 s.discovery.directories) := by
    refine (reports_directories (fun i => by rw [Nat.zero_add]) fun provider => ?_).congr fun rule => ?_
    · simp [NamedBefore]
    · cases rule <;> simp [Rule.check]
  have hkeySuffix : Reports s (·.check = 4)
      (listIf (s.cache.enabled && isBlank s.cache.keySuffix) .blankKeySuffix) :=
    .of_single (.of_listIf fun _ => breaks_keySuffix_iff) fun r => by cases r <;> simp [Rule.check]
  have hfallback : Reports s (·.check = 5)
      (listIf (s.manager.fallbackStrategy == .designated && s.manager.fallbackPlugin.all isBlank)
        .fallbackPluginMissing) :=
    .of_single (.of_listIf fun _ => breaks_fallbackPlugin_iff) fun r => by
      cases r <;> simp [Rule.check]
  have hinstalled : Reports s (·.check = 6)
      (installedViolations 0 (s.manager.installedProviders.getD [])) := by
    refine (reports_installed fun i => by rw [Nat.zero_add]).congr fun rule => ?_
    cases rule <;> simp [Rule.check]
  have hlevel : Reports s (·.check = 7)
      (listIf (!isLevel s.logging.level) (.badLevel s.logging.level)) :=
    .of_single (.of_listIf fun _ => breaks_level_iff) fun r => by cases r <;> simp [Rule.check]
  have hall := hstart.next hsuffix |>.next hidKey |>.next hpattern |>.next hdirectories
    |>.next hkeySuffix |>.next hfallback |>.next hinstalled |>.next hlevel
  have hchecks : ∀ rule : Rule, rule.check < 0 + 1 + 1 + 1 + 1 + 1 + 1 + 1 + 1 ↔ True := fun rule => by
    cases rule <;> simp [Rule.check]
  have hreport := hall.congr hchecks
  unfold violations discoveryViolations managerViolations
  simp only [List.nil_append, List.append_assoc] at hreport ⊢
  exact hreport

/-- Settings pass exactly if they break no rule. Otherwise the refusal goes through the broken rules,
each once and in the order of their places, and says of each how it is broken, and nothing else. -/
theorem validate_reports_broken_rules (s : Settings) :
    (validate s = .ok s ↔ ∀ rule v, ¬Breaks s rule v) ∧
      ∃ report : List (Rule × Violation), report.Pairwise (fun a b => a.1.Before b.1) ∧
        (∀ rule v, (rule, v) ∈ report ↔ Breaks s rule v) ∧ report.map Prod.snd = s.violations ∧
        (report ≠ [] → validate s = .error (s.violations.map Diagnostic.ofViolation)) := by
  obtain ⟨report, hsaid, hordered, hbroken⟩ := reports_violations s
  have hbroken : ∀ rule v, (rule, v) ∈ report ↔ Breaks s rule v := fun rule v => by
    rw [hbroken, true_and]
  have hempty : s.violations = [] ↔ report = [] := by rw [← hsaid, List.map_eq_nil_iff]
  refine ⟨?_, report, hordered, hbroken, hsaid, fun hne => ?_⟩
  · have hnone : report = [] ↔ ∀ rule v, ¬Breaks s rule v := by
      simp only [List.eq_nil_iff_forall_not_mem, Prod.forall, hbroken]
    rw [← hnone, ← hempty]
    unfold validate
    split
    · next hnil => exact ⟨fun _ => hnil, fun _ => rfl⟩
    · next hsome => exact ⟨nofun, fun hnil => absurd hnil hsome⟩
  · unfold validate
    split
    · next hnil => exact absurd (hempty.1 hnil) hne
    · rfl

/-- A provider with two entries, an entry without provider and paths, and a level that is none. -/
def crowdedSettings : Settings where
  discovery :=
    { directories := [⟨"core", [⟨"/a"⟩]⟩, ⟨"core", [⟨"/b"⟩]⟩, ⟨" ", []⟩] }
  logging := { level := "loud" }

theorem crowdedSettings_refused :
    validate crowdedSettings = .error
      ([.duplicateProvider "core", .blankProvider 2, .noPaths 2, .badLevel "loud"].map
        Diagnostic.ofViolation) := by
  have hviolations : crowdedSettings.violations =
      [.duplicateProvider "core", .blankProvider 2, .noPaths 2, .badLevel "loud"] := by
    decide +kernel
  obtain ⟨-, report, -, hbroken, -, hrefused⟩ := validate_reports_broken_rules crowdedSettings
  have hlevel : (Rule.level, Violation.badLevel "loud") ∈ report :=
    (hbroken _ _).2 (.level (by decide +kernel))
  rw [hrefused (List.ne_nil_of_mem hlevel), hviolations]

end PluginHost.Settings
