import PluginHost.Proofs.Discovery.Arrangement
import PluginHost.Proofs.Discovery.Expansion
import PluginHost.Proofs.Discovery.Override
import PluginHost.Proofs.Except
import PluginHost.Proofs.Log

/-!
The log of overridden definitions. Two loops put definitions into a map: one over the files of a scan,
each with the entry that the cache gave or that was read, and one over the definitions that replace
the discovered ones when these are expanded. Both log each override, and nothing else as one.
-/
namespace PluginHost

def Event.directoryOverride? : Event → Option Override
  | .overriddenByDirectory id overridden replacement => some ⟨id, overridden, replacement⟩
  | _ => none

def Event.derivativeOverride? : Event → Option Override
  | .overriddenByDerivative id overridden replacement => some ⟨id, overridden, replacement⟩
  | _ => none

theorem Event.isSome_directoryOverride?_iff {event : Event} :
    event.directoryOverride?.isSome ↔ event.message = "definition overridden by later directory" := by
  cases event <;> simp [directoryOverride?, message]

theorem Event.isSome_derivativeOverride?_iff {event : Event} :
    event.derivativeOverride?.isSome ↔
      event.message = "definition overridden by derivative expansion" := by
  cases event <;> simp [derivativeOverride?, message]

def CacheEntry.definition? : CacheEntry → Option Definition
  | .definition d => some d
  | .empty => none

/-- These events are a directory discovery's own: whatever a cache logs, it logs none of them. -/
structure DefinitionCache.LogsNoOverride (cache : DefinitionCache) : Prop where
  lookup : ∀ path, (cache.lookup path).Silent Event.directoryOverride?
  keep : ∀ path modified entry, (cache.keep path modified entry).Silent Event.directoryOverride?

namespace DefinitionCache

theorem logsNoOverride_null : null.LogsNoOverride :=
  ⟨fun _ => Step.silent_pure _, fun _ _ _ => Step.silent_pure _⟩

theorem logsNoOverride_file (suffix : String) : (file suffix).LogsNoOverride where
  lookup path := by
    change (lookupStored suffix path).Silent _
    unfold lookupStored
    refine Step.silent_get.bind fun w => ?_
    dsimp only
    split
    · exact Step.silent_pure _
    · split
      · exact Step.silent_pure _
      · exact (Step.silent_log rfl).bind fun _ => (Step.silent_set _).bind fun _ =>
          Step.silent_pure _
  keep _ _ _ := Step.silent_modify _

theorem logsNoOverride_ofSettings (enabled : Bool) (suffix : String) :
    (ofSettings enabled suffix).LogsNoOverride := by
  cases enabled with
  | false => exact logsNoOverride_null
  | true => exact logsNoOverride_file suffix

theorem LogsNoOverride.lookupAll {cache : DefinitionCache} (h : cache.LogsNoOverride)
    (paths : List Path) : (cache.lookupAll paths).Silent Event.directoryOverride? := by
  unfold DefinitionCache.lookupAll
  refine Step.silent_foldlM (fun hits path => (h.lookup path).bind fun found => ?_) paths []
  cases found <;> exact Step.silent_pure _

end DefinitionCache

namespace Scanner

variable (s : Scanner) (files : FileTree)

theorem logged_scanAll (listed : List (String × Path)) :
    (s.scanAll files listed).logged Event.directoryOverride? = [] := by
  induction listed with
  | nil => rfl
  | cons first rest ih =>
    obtain ⟨provider, dir⟩ := first
    have hhere : (s.scanDirectory files provider dir).logged Event.directoryOverride? = [] := by
      unfold scanDirectory
      split
      · unfold Traced.logged
        rw [Traced.events_bind, Traced.events_pure, List.append_nil]
        exact Traced.logged_forM (fun _ => rfl) _
      · rfl
    change ((s.scanDirectory files provider dir).events ++
      ((s.scanAll files rest).events ++ [])).filterMap Event.directoryOverride? = []
    rw [List.append_nil, List.filterMap_append]
    exact List.append_eq_nil_iff.2 ⟨hhere, ih⟩

theorem logged_scan (directories : DirectorySet) :
    (s.scan files directories).logged Event.directoryOverride? = [] := by
  have hexclude : ∀ found, (s.applyExclude found).logged Event.directoryOverride? = [] := by
    intro found
    unfold applyExclude
    split <;> rfl
  unfold scan Traced.logged
  simp only [Traced.events_bind, Traced.events_pure, List.filterMap_append, List.append_nil]
  exact List.append_eq_nil_iff.2 ⟨logged_scanAll s files _,
    List.append_eq_nil_iff.2 ⟨hexclude _, rfl⟩⟩

end Scanner

namespace DirectoryDiscovery

variable {d : DirectoryDiscovery} {hits : List (Path × CacheEntry)} {f : ScannedFile}
  {entry : CacheEntry} {w t : Workspace}

def kept (d : DirectoryDiscovery) (f : ScannedFile) (entry : CacheEntry) (w : Workspace) :
    Workspace :=
  match w.files.modified? f.path with
  | some modified => ((d.cache.keep f.path modified entry).outcome w).2
  | none => w

/-- The entries that files count with, one after the other: what the cache gave, if it fits, and else
what the file holds when its turn comes. -/
inductive GoesBy (d : DirectoryDiscovery) (hits : List (Path × CacheEntry)) :
    Workspace → ScanResult → List CacheEntry → Prop
  | done {w : Workspace} : GoesBy d hits w [] []
  | cached {w : Workspace} {f : ScannedFile} {entry : CacheEntry} {rest : ScanResult}
      {entries : List CacheEntry} (hit : fittingHit hits f = some entry)
      (later : GoesBy d hits w rest entries) : GoesBy d hits w (f :: rest) (entry :: entries)
  | loaded {w : Workspace} {f : ScannedFile} {entry : CacheEntry} {rest : ScanResult}
      {entries : List CacheEntry} (miss : fittingHit hits f = none)
      (holds : d.Holds w.files f entry) (later : GoesBy d hits (d.kept f entry w) rest entries) :
      GoesBy d hits w (f :: rest) (entry :: entries)

theorem entryFor_cases (h : (d.entryFor hits f).outcome w = (.ok entry, t)) :
    (fittingHit hits f = some entry ∧ t = w) ∨
      (fittingHit hits f = none ∧ d.Holds w.files f entry ∧ t = d.kept f entry w) := by
  cases hhit : fittingHit hits f with
  | some found =>
    rw [outcome_entryFor_hit hhit] at h
    cases h
    exact .inl ⟨rfl, rfl⟩
  | none =>
    rw [outcome_entryFor_miss hhit] at h
    refine .inr ⟨rfl, ?_⟩
    rcases holds_or_fails d w.files f with ⟨held, hheld⟩ | ⟨e, he⟩
    · rw [load_of_holds hheld] at h
      unfold kept
      cases hmodified : w.files.modified? f.path <;>
        (rw [hmodified] at h; cases h; exact ⟨hheld, rfl⟩)
    · rw [load_of_fails he] at h
      cases h

theorem provider_of_fittingHit {definition : Definition}
    (h : fittingHit hits f = some (.definition definition)) : definition.provider = f.provider :=
  of_decide_eq_true (Option.filter_eq_some_iff.1 h).2

theorem provider_of_entryFor (h : (d.entryFor hits f).outcome w = (.ok entry, t))
    {definition : Definition} (hdefinition : entry = .definition definition) :
    definition.provider = f.provider := by
  subst hdefinition
  rcases entryFor_cases h with ⟨hit, -⟩ | ⟨-, holds, -⟩
  · exact provider_of_fittingHit hit
  · exact (provider_source_of_holds holds).1

theorem silent_entryFor (hcache : d.cache.LogsNoOverride) (hits : List (Path × CacheEntry))
    (f : ScannedFile) : (d.entryFor hits f).Silent Event.directoryOverride? := by
  unfold entryFor
  dsimp only
  split
  · exact Action.silent_pure _
  · refine Action.silent_get.bind fun w => (Action.silent_ofExcept _).bind fun loaded => ?_
    obtain ⟨entry, _ | modified⟩ := loaded
    · exact (Action.silent_log rfl).bind fun _ => Action.silent_pure _
    · exact (Action.silent_ofStep (hcache.keep _ _ _)).bind fun _ => Action.silent_pure _

theorem logged_addEntry (f : ScannedFile) (entry : CacheEntry) (all : DefinitionMap)
    (hprovider : ∀ definition, entry = .definition definition → definition.provider = f.provider)
    (w : Workspace) :
    (addEntry f entry all : Action Workspace DefinitionMap).logged Event.directoryOverride? w =
      Override.ofEach all entry.definition?.toList := by
  cases entry with
  | empty => rfl
  | definition d =>
    change _ = _ ++ []
    rw [List.append_nil]
    unfold addEntry
    cases hget : all.get? d.id with
    | none =>
      simp only [hget]
      rfl
    | some previous =>
      simp only [hget]
      rw [hprovider d rfl]
      rfl

theorem putAll_definition? (entry : CacheEntry) (all : DefinitionMap) :
    Override.putAll all entry.definition?.toList = entry.addTo all := by
  cases entry <;> rfl

theorem filterMap_definition?_cons (entry : CacheEntry) (entries : List CacheEntry) :
    (entry :: entries).filterMap CacheEntry.definition? =
      entry.definition?.toList ++ entries.filterMap CacheEntry.definition? := by
  cases entry <;> rfl

theorem logged_visit_cons (hcache : d.cache.LogsNoOverride)
    (h : (d.entryFor hits f).outcome w = (.ok entry, t)) (rest : ScanResult) (all : DefinitionMap) :
    (d.visit hits (f :: rest) all).logged Event.directoryOverride? w =
      Override.ofEach all entry.definition?.toList ++
        (d.visit hits rest (entry.addTo all)).logged Event.directoryOverride? t := by
  have hturn : Action.outcome (do
      let entry ← d.entryFor hits f
      addEntry f entry all) w = (.ok (entry.addTo all), t) := by
    rw [Action.outcome_bind_ok h, outcome_addEntry]
  unfold visit
  rw [List.foldlM_cons, Action.logged_bind_ok hturn, Action.logged_bind_ok h,
    silent_entryFor hcache hits f w,
    logged_addEntry f entry all fun _ => provider_of_entryFor h]
  rfl

theorem visit_logs (hcache : d.cache.LogsNoOverride) {found : ScanResult}
    {all final : DefinitionMap} (h : (d.visit hits found all).result w = .ok final) :
    ∃ entries, d.GoesBy hits w found entries ∧
      final = Override.putAll all (entries.filterMap CacheEntry.definition?) ∧
      (d.visit hits found all).logged Event.directoryOverride? w =
        Override.ofEach all (entries.filterMap CacheEntry.definition?) := by
  -- Any map and any workspace: where the turn of one file ends, the loop over the rest starts.
  induction found generalizing all w with
  | nil =>
    cases h
    exact ⟨[], .done, rfl, rfl⟩
  | cons f rest ih =>
    rcases hentry : (d.entryFor hits f).outcome w with ⟨e | entry, t⟩
    · have herror := congrArg Prod.fst (outcome_visit_cons_of_error hentry rest all)
      cases h.symm.trans herror
    · have hrest := congrArg Prod.fst (outcome_visit_cons_of_ok hentry rest all)
      obtain ⟨entries, hgoes, hfinal, hlogged⟩ := ih (hrest.symm.trans h)
      refine ⟨entry :: entries, ?_, ?_, ?_⟩
      · rcases entryFor_cases hentry with ⟨hit, rfl⟩ | ⟨miss, holds, rfl⟩
        · exact .cached hit hgoes
        · exact .loaded miss holds hgoes
      · rw [hfinal, filterMap_definition?_cons, Override.putAll_append, putAll_definition?]
      · rw [logged_visit_cons hcache hentry, hlogged, filterMap_definition?_cons,
          Override.ofEach_append, putAll_definition?]

theorem GoesBy.providers {found : ScanResult} {entries : List CacheEntry}
    (h : d.GoesBy hits w found entries) :
    List.Forall₂ (fun f entry => ∀ definition, entry = .definition definition →
      definition.provider = f.provider) found entries := by
  induction h with
  | done => exact .nil
  | cached hit _ ih => exact .cons (fun _ he => provider_of_fittingHit (he ▸ hit)) ih
  | loaded _ holds _ ih => exact .cons (fun _ he => (provider_source_of_holds (he ▸ holds)).1) ih

theorem definitions_logs (hcache : d.cache.LogsNoOverride) {all : DefinitionMap}
    (h : d.definitions.result w = .ok all) :
    let asked := (d.cache.lookupAll ((d.scanned w.files).map ScannedFile.path)).outcome w
    ∃ entries, d.GoesBy asked.1 asked.2 (d.scanned w.files) entries ∧
      all = Override.putAll .empty (entries.filterMap CacheEntry.definition?) ∧
      d.definitions.logged Event.directoryOverride? w =
        Override.ofEach .empty (entries.filterMap CacheEntry.definition?) := by
  intro asked
  have houtcome := outcome_definitions d w
  have hvisit : (d.visit asked.1 (d.scanned w.files) .empty).result asked.2 = .ok all :=
    (congrArg Prod.fst houtcome).symm.trans h
  obtain ⟨entries, hgoes, hall, hlogged⟩ := visit_logs hcache hvisit
  refine ⟨entries, hgoes, hall, ?_⟩
  have hscan : (d.scanner.scan w.files d.directories).logged Event.directoryOverride? = [] :=
    d.scanner.logged_scan w.files d.directories
  have hloop : (d.visit asked.1 (d.scanned w.files) .empty).outcome asked.2 =
    (.ok all, (d.visit asked.1 (d.scanned w.files) .empty).after asked.2) := Prod.ext hvisit rfl
  -- Before the loop come the scan and the lookups, after it one event, and none of these counts.
  unfold definitions
  rw [Action.logged_bind_ok (Action.outcome_get w), Action.silent_get w,
    Action.logged_bind_ok (Action.outcome_ofTraced _ w), Action.silent_ofTraced hscan w,
    Action.logged_bind_ok (Action.outcome_ofStep _ w),
    Action.silent_ofStep (hcache.lookupAll _) w, List.nil_append, List.nil_append, List.nil_append]
  refine (Action.logged_bind_ok hloop).trans ?_
  rw [hlogged]
  exact List.append_nil _

end DirectoryDiscovery

namespace Processing

variable {σ : Type} {p : Processing}

def inPlaceOf (p : Processing) (e : String × Definition) : List Definition :=
  (p.expansion e.1 e.2).toOption.getD []

def derivatives (p : Processing) (base : Definition) : DefinitionMap :=
  ((base.deriver.bind p.derivers.get?).bind fun derive => (derive base).toOption).getD .empty

theorem logged_addDefinition (all : DefinitionMap) (d : Definition) (s : σ) :
    (addDefinition all d : Action σ DefinitionMap).logged Event.derivativeOverride? s =
      Override.ofEach all [d] := by
  change _ = _ ++ []
  rw [List.append_nil]
  unfold addDefinition
  cases all.get? d.id <;> rfl

theorem logged_addDefinitions (new : List Definition) (all : DefinitionMap) (s : σ) :
    (new.foldlM addDefinition all : Action σ DefinitionMap).logged Event.derivativeOverride? s =
      Override.ofEach all new := by
  induction new generalizing all with
  | nil => rfl
  | cons d rest ih =>
    rw [List.foldlM_cons, Action.logged_bind_ok (outcome_addDefinition all d s),
      logged_addDefinition, ih]
    exact (Override.ofEach_append all [d] rest).symm

theorem expandFrom_logs {found : List (String × Definition)} {all expanded : DefinitionMap}
    (h : p.expandedFrom found all = .ok expanded) (s : σ) :
    expanded = Override.putAll all (found.flatMap p.inPlaceOf) ∧
      (p.expandFrom found all : Action σ DefinitionMap).logged Event.derivativeOverride? s =
        Override.ofEach all (found.flatMap p.inPlaceOf) := by
  induction found generalizing all with
  | nil =>
    cases h
    exact ⟨rfl, rfl⟩
  | cons e rest ih =>
    obtain ⟨id, base⟩ := e
    cases hnew : p.expansion id base with
    | error e =>
      rw [expandedFrom_cons_of_error hnew] at h
      cases h
    | ok new =>
      rw [expandedFrom_cons_of_ok hnew] at h
      obtain ⟨hexpanded, hlogged⟩ := ih h
      have hplace : p.inPlaceOf (id, base) = new := by
        unfold inPlaceOf
        rw [hnew]
        rfl
      have hbase : (liftM (p.expansion id base) : Action σ _).outcome s = (.ok new, s) := by
        rw [Action.outcome_ofExcept, hnew]
      rw [List.flatMap_cons, hplace, Override.putAll_append, Override.ofEach_append]
      refine ⟨hexpanded, ?_⟩
      unfold expandFrom
      rw [Action.logged_bind_ok hbase, Action.silent_ofExcept _ s, List.nil_append,
        Action.logged_bind_ok (outcome_addDefinitions new all s), logged_addDefinitions]
      exact congrArg _ hlogged

theorem length_inPlaceOf {id : String} {base : Definition} (h : ∀ e, ¬p.CannotExpand id base e) :
    (p.inPlaceOf (id, base)).length =
      (if base.deriver.isNone then 1 else 0) + (p.derivatives base).entries.length := by
  unfold inPlaceOf derivatives
  rcases p.expansion_cases id base with hplain | ⟨made, hmade⟩ | ⟨e, he⟩
  · rw [expansion_plain hplain, hplain]
    rfl
  · have ⟨name, derive, hname, hderive, hok⟩ := hmade
    rw [expansion_derives hmade, hname, Option.bind_some, hderive, Option.bind_some, hok]
    change (made.entries.map _).length = 0 + made.entries.length
    rw [List.length_map, Nat.zero_add]
  · exact absurd he (h e)

theorem length_flatMap_inPlaceOf {found : List (String × Definition)}
    (h : ∀ f ∈ found, ∀ e, ¬p.CannotExpand f.1 f.2 e) :
    (found.flatMap p.inPlaceOf).length =
      found.countP (fun f => f.2.deriver.isNone) +
        (found.flatMap fun f => (p.derivatives f.2).entries).length := by
  induction found with
  | nil => rfl
  | cons f rest ih =>
    obtain ⟨hf, hrest⟩ := List.forall_mem_cons.1 h
    rw [List.flatMap_cons, List.length_append, length_inPlaceOf hf, ih hrest, List.countP_cons,
      List.flatMap_cons, List.length_append]
    omega

end Processing

/-- Every override is logged once. The events of a directory discovery account for the definitions
among the entries of its files, with any cache that does not log such events itself, as none does
that settings ask for. The events of an expansion account for the definitions without a deriver and
the derivatives. -/
theorem overrides_logged_once :
    (∀ enabled suffix, (DefinitionCache.ofSettings enabled suffix).LogsNoOverride) ∧
    (∀ (d : DirectoryDiscovery) (w : Workspace) (all : DefinitionMap), d.cache.LogsNoOverride →
      d.definitions.result w = .ok all →
      let found := d.scanned w.files
      let asked := (d.cache.lookupAll (found.map ScannedFile.path)).outcome w
      ∃ entries, d.GoesBy asked.1 asked.2 found entries ∧
        List.Forall₂ (fun f entry => ∀ definition, entry = .definition definition →
          definition.provider = f.provider) found entries ∧
        Override.AccountFor (d.definitions.logged Event.directoryOverride? w)
          (entries.filterMap CacheEntry.definition?) all) ∧
    ∀ (σ : Type) (p : Processing) (discovered expanded : DefinitionMap) (s : σ),
      (p.expand discovered : Action σ DefinitionMap).result s = .ok expanded →
      let overrides :=
        (p.expand discovered : Action σ DefinitionMap).logged Event.derivativeOverride? s
      Override.AccountFor overrides (discovered.entries.flatMap p.inPlaceOf) expanded ∧
        overrides.length + expanded.size =
          discovered.entries.countP (fun f => f.2.deriver.isNone) +
            (discovered.entries.flatMap fun f => (p.derivatives f.2).entries).length := by
  refine ⟨DefinitionCache.logsNoOverride_ofSettings, ?_, ?_⟩
  · intro d w all hcache hall found asked
    obtain ⟨entries, hgoes, rfl, hlogged⟩ := DirectoryDiscovery.definitions_logs hcache hall
    rw [hlogged]
    exact ⟨entries, hgoes, hgoes.providers, Override.accountFor_ofEach _⟩
  · intro σ p discovered expanded s hexpanded overrides
    have hfrom : p.expandedFrom discovered.entries .empty = .ok expanded :=
      (congrArg Prod.fst (p.outcome_expandFrom discovered.entries .empty s)).symm.trans hexpanded
    obtain ⟨rfl, hlogged⟩ := Processing.expandFrom_logs hfrom s
    have haccount : Override.AccountFor overrides (discovered.entries.flatMap p.inPlaceOf)
        (Override.putAll .empty (discovered.entries.flatMap p.inPlaceOf)) := by
      rw [show overrides = _ from hlogged]
      exact Override.accountFor_ofEach _
    refine ⟨haccount, ?_⟩
    rw [haccount.count, Processing.length_flatMap_inPlaceOf]
    exact Processing.exists_expandedFrom_eq_ok_iff.1 ⟨_, hfrom⟩

/-- Three files in the directories of `threeDirectories`, all with one id. -/
def oneIdFiles : FileTree :=
  (DirectoryDiscovery.threeFiles.write ⟨"/more/b.yml"⟩ "id: block\n".toUTF8 5).write
    ⟨"/extra/c.yml"⟩ "id: block\n".toUTF8 6

def cachedDirectories : DirectoryDiscovery :=
  { DirectoryDiscovery.threeDirectories with cache := .ofSettings true "plugins" }

/-- The first of the files was read before. -/
def oneIdWorkspace : Workspace :=
  ((cachedDirectories.cache.keep ⟨"/base/a.yml"⟩ 2
    (.definition { id := "block", provider := "core" })).outcome { files := oneIdFiles }).2

def overridingBases : DefinitionMap :=
  Processing.sampleBases.insert "a:b:c" { id := "a:b:c", provider := "site" }

/-- Of three definitions with one id, two are overridden, be they files' or derivatives. -/
theorem overrides_of_oneId :
    (cachedDirectories.cache.LogsNoOverride ∧ ∃ all, ∃ entries : List CacheEntry,
      cachedDirectories.definitions.result oneIdWorkspace = .ok all ∧ all.keys = ["block"] ∧
      cachedDirectories.definitions.logged Event.directoryOverride? oneIdWorkspace =
        [⟨"block", "core", "core"⟩, ⟨"block", "core", "extra"⟩] ∧
      Override.AccountFor
        (cachedDirectories.definitions.logged Event.directoryOverride? oneIdWorkspace)
        (entries.filterMap CacheEntry.definition?) all) ∧
    let expansion : Action Unit DefinitionMap := Processing.sampleDerivers.expand overridingBases
    ∃ expanded, expansion.result () = .ok expanded ∧ expanded.size = 1 ∧
      expansion.logged Event.derivativeOverride? () =
        [⟨"a:b:c", "core", "extra"⟩, ⟨"a:b:c", "extra", "site"⟩] ∧
      Override.AccountFor (expansion.logged Event.derivativeOverride? ())
        (overridingBases.entries.flatMap Processing.sampleDerivers.inPlaceOf) expanded := by
  have hcache : cachedDirectories.cache.LogsNoOverride := overrides_logged_once.1 true "plugins"
  have hkeys : (cachedDirectories.definitions.result oneIdWorkspace).map KeyedMap.keys =
      .ok ["block"] := by
    decide +kernel
  have hlogged : cachedDirectories.definitions.logged Event.directoryOverride? oneIdWorkspace =
      [⟨"block", "core", "core"⟩, ⟨"block", "core", "extra"⟩] := by
    decide +kernel
  obtain ⟨all, hall, hblock⟩ := Except.map_eq_ok_iff.1 hkeys
  obtain ⟨entries, -, -, haccount⟩ := overrides_logged_once.2.1 _ _ all hcache hall
  refine ⟨⟨hcache, all, entries, hall, hblock, hlogged, haccount⟩, _, rfl, rfl, rfl, ?_⟩
  exact (overrides_logged_once.2.2 Unit Processing.sampleDerivers overridingBases _ () rfl).1

end PluginHost
