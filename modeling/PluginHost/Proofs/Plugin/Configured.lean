import PluginHost.Plugin.Manager
import PluginHost.Proofs.Definition
import PluginHost.Proofs.DirectorySet
import PluginHost.Proofs.Discovery.Invariant
import PluginHost.Proofs.Scan.Sighting
import PluginHost.Settings.Violation

/-!
What the definitions of a manager owe to its settings. The settings fix the directories, the files
in them that count, and the providers that are installed; whatever becomes of the files, and however
late a definition is given, it comes from one of those files.
-/
namespace PluginHost

/-- The path lies below the directory, and is one of those that these settings let through. -/
structure DiscoverySettings.Admits (s : DiscoverySettings) (dir source : Path) : Prop where
  below : ∃ (names : Location) (name : String),
    source.components = dir.components ++ (names ++ [OsText.ofString name]).map .name ∧
      name.endsWith s.effectiveSuffix = true
  kept : ∀ text pattern, s.excludePattern = some text → Pattern.ofText text = .ok pattern →
    pattern.foundIn source.text = false

namespace Settings

structure LeadsTo (s : Settings) (d : Definition) : Prop where
  id : Text.isBlank d.id = false
  origin : ∃ entry ∈ s.discovery.directories, entry.provider = d.provider ∧
    ∃ dir ∈ entry.paths, ∃ source, d.source = some source ∧ s.discovery.Admits dir source
  metadata : ∀ key ∈ Definition.reservedKeys s.discovery.idKey, d.metadata.get? key = none

structure Allows (s : Settings) (d : Definition) : Prop extends s.LeadsTo d where
  deriver : d.deriver = none
  installed : ∀ providers, s.manager.installedProviders = some providers → d.provider ∈ providers

def exclusion (s : Settings) : Except PluginError (Option Exclusion) :=
  match s.discovery.excludePattern with
  | none => .ok none
  | some text =>
    match Pattern.ofText text with
    | .ok pattern => .ok (some ⟨text, pattern⟩)
    | .error fault => .error (.settings (.badExcludePattern text fault))

def planWith {σ π : Type} (s : Settings) (exclude : Option Exclusion) : ManagerPlan σ π where
  directories := s.discovery.directorySet
  format := s.discovery.format
  fileSuffix := some s.discovery.effectiveSuffix
  exclude
  idKey := s.discovery.idKey
  cache := some (.ofSettings s.cache.enabled s.cache.keySuffix)
  processing := { installed := s.manager.installedProviders }
  fallback := FallbackPolicy.ofSettings s.manager

variable {s : Settings}

theorem ofSettings_eq {σ π : Type} (s : Settings) :
    (ManagerPlan.ofSettings s : Except PluginError (ManagerPlan σ π)) =
      s.exclusion.map s.planWith := by
  unfold ManagerPlan.ofSettings exclusion Exclusion.ofText
  cases s.discovery.excludePattern with
  | none => rfl
  | some text =>
    simp only [bind, Except.bind]
    cases Pattern.ofText text <;> rfl

theorem exists_exclusion (h : s.violations = []) : ∃ exclude, s.exclusion = .ok exclude := by
  unfold violations discoveryViolations at h
  simp only [List.append_eq_nil_iff] at h
  obtain ⟨⟨⟨⟨⟨-, hpattern⟩, -⟩, -⟩, -⟩, -⟩ := h
  unfold exclusion
  split
  · exact ⟨_, rfl⟩
  · next text htext =>
    rw [htext] at hpattern
    cases hread : Pattern.ofText text with
    | ok pattern => exact ⟨_, rfl⟩
    | error fault =>
      simp only [hread] at hpattern
      cases hpattern

def discoveryWith (s : Settings) (exclude : Option Exclusion) : DirectoryDiscovery :=
  (s.planWith exclude : ManagerPlan Unit Unit).directoryDiscovery

theorem foundIn_of_not_excludes {exclude : Option Exclusion} (hexclude : s.exclusion = .ok exclude)
    {path : Path} (h : ¬(s.discoveryWith exclude).scanner.Excludes path) {text : String}
    {pattern : Pattern} (htext : s.discovery.excludePattern = some text)
    (hpattern : Pattern.ofText text = .ok pattern) : pattern.foundIn path.text = false := by
  unfold exclusion at hexclude
  simp only [htext, hpattern] at hexclude
  cases hexclude
  rw [Bool.eq_false_iff]
  exact fun hfound => h ⟨⟨text, pattern⟩, rfl, hfound⟩

theorem exists_admits_of_scanned {exclude : Option Exclusion} (hexclude : s.exclusion = .ok exclude)
    {files : FileTree} {f : ScannedFile} (h : f ∈ (s.discoveryWith exclude).scanned files) :
    ∃ entry ∈ s.discovery.directories, entry.provider = f.provider ∧
      ∃ dir ∈ entry.paths, s.discovery.Admits dir f.path := by
  obtain ⟨t, ⟨⟨dir, node, hlisted, hnode, -, hfile, hpath⟩, -⟩, rfl, hexcludes⟩ :=
    Scanner.mem_scan_iff.1 h
  obtain ⟨entry, hentry, hprovider, hdir⟩ :=
    DiscoverySettings.mem_positions_iff.1 (List.mem_of_getElem? hlisted)
  refine ⟨entry, hentry, hprovider, dir, hdir, ?_, fun text pattern htext hpattern =>
    foundIn_of_not_excludes hexclude hexcludes htext hpattern⟩
  obtain ⟨⟨content, modified, hat⟩, ⟨name, hlast, hsuffix⟩, -⟩ := hfile
  obtain ⟨names, hnames⟩ := List.getLast?_eq_some_iff.1 hlast
  refine ⟨names, name, ?_, hsuffix⟩
  rw [hpath, ← hnames]
  exact Path.components_below (FileTree.raw_ne_empty_of_node? hnode)
    (FileNode.named_of_at? (FileTree.wellFormed_of_node? hnode) hat)

theorem reads_discoveryWith {exclude : Option Exclusion} (hexclude : s.exclusion = .ok exclude) :
    (s.discoveryWith exclude).Reads s.LeadsTo := by
  intro files f hf d hholds
  obtain ⟨hprovider, hsource⟩ := DirectoryDiscovery.provider_source_of_holds hholds
  obtain ⟨entry, hentry, hentryProvider, dir, hdir, hadmits⟩ := exists_admits_of_scanned hexclude hf
  have horigin : ∃ entry ∈ s.discovery.directories, entry.provider = d.provider ∧
      ∃ dir ∈ entry.paths, ∃ source, d.source = some source ∧ s.discovery.Admits dir source :=
    ⟨entry, hentry, hentryProvider.trans hprovider.symm, dir, hdir, f.path, hsource, hadmits⟩
  cases hholds with
  | definition readable utf8 parses holdsSome valid =>
    exact ⟨Definition.isBlank_id_of_ofDocument valid, horigin,
      fun key hkey => Definition.get?_metadata_of_ofDocument valid hkey⟩

end Settings

theorem Processing.get?_of_processed {installed : Option (List String)}
    {discovered all : DefinitionMap} (hids : discovered.KeyedById)
    (h : ({ installed } : Processing).processed discovered = .ok all) {id : String} {d : Definition}
    (hget : all.get? id = some d) :
    discovered.get? id = some d ∧ d.deriver = none ∧
      ({ installed } : Processing).isInstalled d = true := by
  obtain ⟨expanded, hexpanded, rfl⟩ := exists_of_processed h
  unfold finished at hget
  rw [KeyedMap.get?_filter, Option.filter_eq_some_iff] at hget
  obtain ⟨hfilled, hinstalled⟩ := hget
  have hexpandedGet : expanded.get? id = some d := by
    change (expanded.mapValues fun _ d => d).get? id = some d at hfilled
    rw [KeyedMap.get?_mapValues] at hfilled
    simpa using hfilled
  rcases (get?_expandedFrom_empty hids hexpanded id d).1 hexpandedGet with
    ⟨hmem, hnone⟩ | ⟨-, baseId, ⟨_, _, _, _, -, ⟨_, _, -, hderive, -⟩, -⟩, -⟩
  · exact ⟨KeyedMap.mem_entries_iff.1 hmem, hnone, hinstalled⟩
  · cases hderive

/-- A change of the files as one of the workspace, in which the store stays as it is. -/
def Call.ofFiles : Call FileTree → Call Workspace
  | .change alter => .change fun w => { w with files := alter w.files }
  | .definitions => .definitions
  | .definition id strict => .definition id strict
  | .has id => .has id
  | .clear => .clear

namespace Settings

variable {s : Settings}

theorem ensures_discoveryWith {exclude : Option Exclusion} (hexclude : s.exclusion = .ok exclude) :
    ({ installed := s.manager.installedProviders } : Processing).Ensures
      (s.discoveryWith exclude).discovery (fun w => w.store.Keeps s.LeadsTo)
      fun all => all.KeyedWith s.Allows := by
  have hdefinitions : ∀ w : Workspace, w.store.Keeps s.LeadsTo → _ := fun w =>
    DirectoryDiscovery.keyedWith_definitions (d := s.discoveryWith exclude) (w := w) rfl
      (reads_discoveryWith hexclude)
  refine ⟨fun w hw => (hdefinitions w hw).1, fun w all hw hall => ?_⟩
  obtain ⟨discovered, hdiscovered, hprocessed⟩ := Processing.exists_of_processedAt hall
  have hkeyed := (hdefinitions w hw).2 discovered hdiscovered
  intro id d hget
  obtain ⟨hbefore, hderiver, hinstalled⟩ :=
    Processing.get?_of_processed hkeyed.keyedById hprocessed hget
  obtain ⟨hid, hleads⟩ := hkeyed id d hbefore
  refine ⟨hid, hleads, hderiver, fun providers hproviders => ?_⟩
  unfold Processing.isInstalled at hinstalled
  rw [hproviders] at hinstalled
  exact List.contains_iff_mem.1 hinstalled

/-- What holds between the calls of a run: the store keeps what the settings lead to, and the
definitions that are remembered are such as they allow. -/
def RespectedIn (s : Settings) : Memoized Workspace → Prop :=
  Processing.Between (fun w => w.store.Keeps s.LeadsTo) fun all => all.KeyedWith s.Allows

theorem keeps_of_mem_ofFiles {P : Definition → Prop} {calls : List (Call FileTree)}
    {alter : Workspace → Workspace} (h : .change alter ∈ calls.map Call.ofFiles) (w : Workspace)
    (hw : w.store.Keeps P) : (alter w).store.Keeps P := by
  obtain ⟨call, -, hcall⟩ := List.mem_map.1 h
  cases call with
  | change alterFiles =>
    cases hcall
    exact hw
  | definitions | definition | has | clear => cases hcall

/-- Settings without violations make a manager, and whatever constructors are added to it and in
whatever way the files change while it is asked and its memo is cleared: all definitions that it
gives stand under their ids and are such as the settings allow. -/
theorem definitions_allowed {π : Type} (s : Settings) (h : s.violations = []) :
    ∃ plan : ManagerPlan Workspace π, ManagerPlan.ofSettings s = .ok plan ∧
      ∀ (constructors : ConstructorRegistry π) (files : FileTree) (calls : List (Call FileTree)),
        let manager := ManagerPlan.build { plan with constructors } id
        let now := manager.processing.afterCalls manager.source { inner := { files } }
          (calls.map Call.ofFiles)
        (∀ all, manager.discovery.definitions.result now = .ok all → all.KeyedWith s.Allows) ∧
          ∀ id strict d, (manager.discovery.definition id strict).result now = .ok (some d) →
            d.id = id ∧ s.Allows d := by
  obtain ⟨exclude, hexclude⟩ := exists_exclusion h
  have hplan : ManagerPlan.ofSettings s = .ok (s.planWith exclude : ManagerPlan Workspace π) := by
    rw [ofSettings_eq, hexclude]
    rfl
  refine ⟨s.planWith exclude, hplan, fun constructors files calls => ?_⟩
  intro manager now
  have hensures := ensures_discoveryWith hexclude
  have hstart : s.RespectedIn { inner := { files } } :=
    ⟨fun key modified d hget => (by cases hget), fun all hall => (by cases hall)⟩
  have hnow : s.RespectedIn now :=
    hensures.afterCalls (fun alter halter w => keeps_of_mem_ofFiles halter w) hstart
  have hall := (hensures.definitions hnow).2
  refine ⟨hall, fun id strict d hd => ?_⟩
  obtain ⟨all, hanswer, hget⟩ := Processing.exists_get?_of_result_definition hd
  exact hall all hanswer id d hget

def sampleSettings : Settings where
  discovery := { directories := [{ provider := "core", paths := [⟨"plugins"⟩] }] }
  manager := { installedProviders := some ["core"] }

def sampleFiles : FileTree := (FileTree.ofHere ["home"]).write ⟨"plugins/a.yml"⟩ "id: block\n".toUTF8 5

/-- The definitions are asked for, and their file is removed. -/
def sampleCalls : List (Call FileTree) :=
  [.definitions, .change fun files => files.remove ⟨"plugins/a.yml"⟩]

def sampleManager : PluginManager Workspace Unit :=
  ManagerPlan.build (sampleSettings.planWith none) id

def sampleNow : Memoized Workspace :=
  sampleManager.processing.afterCalls sampleManager.source { inner := { files := sampleFiles } }
    (sampleCalls.map Call.ofFiles)

theorem exists_sampleDefinition :
    ∃ d, (sampleManager.discovery.definition "block" true).result sampleNow = .ok (some d) := by
  have hgiven : ((sampleManager.discovery.definition "block" true).result
      sampleNow).toOption.join.isSome = true := by
    decide +kernel
  cases hanswer : (sampleManager.discovery.definition "block" true).result sampleNow with
  | ok answer =>
    rw [hanswer] at hgiven
    obtain ⟨d, rfl⟩ := Option.isSome_iff_exists.1 hgiven
    exact ⟨d, rfl⟩
  | error e =>
    rw [hanswer] at hgiven
    cases hgiven

/-- The definition is still given without its file, and is one that the settings allow. -/
theorem sampleDefinition_allowed :
    sampleSettings.violations = [] ∧
      ∃ d, (sampleManager.discovery.definition "block" true).result sampleNow = .ok (some d) ∧
        d.id = "block" ∧ sampleSettings.Allows d := by
  have hvalid : sampleSettings.violations = [] := by decide +kernel
  obtain ⟨d, hd⟩ := exists_sampleDefinition
  obtain ⟨plan, hplan, hallowed⟩ := @definitions_allowed Unit sampleSettings hvalid
  obtain rfl : sampleSettings.planWith none = plan :=
    Except.ok.inj ((ofSettings_eq sampleSettings).symm.trans hplan)
  exact ⟨hvalid, d, hd, (hallowed .empty sampleFiles sampleCalls).2 "block" true d hd⟩

end Settings

end PluginHost
