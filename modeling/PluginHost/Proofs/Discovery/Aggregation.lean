import PluginHost.Keyed.Lemmas
import PluginHost.Proofs.Action
import PluginHost.Proofs.Discovery.Contribution

/-!
How a directory discovery puts the files of a scan together. The loop over the scan comes to
`gather`, a fold over what the files hold; from that follow which scans succeed, which file's error
is reported, and that of several definitions of one id the last in scan order is kept.
-/
namespace PluginHost

def CacheEntry.addTo (all : DefinitionMap) : CacheEntry → DefinitionMap
  | .definition d => all.insert d.id d
  | .empty => all

namespace DirectoryDiscovery

def uncached (d : DirectoryDiscovery) : DirectoryDiscovery := { d with cache := .null }

def scanned (d : DirectoryDiscovery) (files : FileTree) : ScanResult :=
  (d.scanner.scan files d.directories).value

def gather (d : DirectoryDiscovery) (files : FileTree) (all : DefinitionMap) (found : ScanResult) :
    Except PluginError DefinitionMap :=
  found.foldlM (fun all f => (d.readEntry files f).map (CacheEntry.addTo all)) all

variable {d : DirectoryDiscovery} {files : FileTree}

theorem outcome_addEntry {σ : Type} (f : ScannedFile) (entry : CacheEntry) (all : DefinitionMap)
    (s : σ) : (addEntry f entry all : Action σ DefinitionMap).outcome s = (.ok (entry.addTo all), s) := by
  unfold addEntry
  cases entry with
  | empty => rfl
  | definition d => cases h : all.get? d.id <;> simp [Action.outcome_bind, h, CacheEntry.addTo]

def collectEntries (entry : ScannedFile → Except PluginError CacheEntry) (all : DefinitionMap)
    (found : ScanResult) : Except PluginError DefinitionMap :=
  found.foldlM (fun all f => (entry f).map (CacheEntry.addTo all)) all

theorem collectEntries_cons_of_ok {entry : ScannedFile → Except PluginError CacheEntry}
    {f : ScannedFile} {e : CacheEntry} (h : entry f = .ok e) (all : DefinitionMap)
    (rest : ScanResult) :
    collectEntries entry all (f :: rest) = collectEntries entry (e.addTo all) rest := by
  unfold collectEntries
  rw [List.foldlM_cons, h]
  rfl

theorem collectEntries_cons_of_error {entry : ScannedFile → Except PluginError CacheEntry}
    {f : ScannedFile} {e : PluginError} (h : entry f = .error e) (all : DefinitionMap)
    (rest : ScanResult) : collectEntries entry all (f :: rest) = .error e := by
  unfold collectEntries
  rw [List.foldlM_cons, h]
  rfl

theorem collectEntries_congr {entry other : ScannedFile → Except PluginError CacheEntry}
    {found : ScanResult} (h : ∀ f ∈ found, entry f = other f) (all : DefinitionMap) :
    collectEntries entry all found = collectEntries other all found := by
  induction found generalizing all with
  | nil => rfl
  | cons f rest ih =>
    obtain ⟨hf, hrest⟩ := List.forall_mem_cons.1 h
    cases ho : other f with
    | ok e =>
      rw [collectEntries_cons_of_ok (hf.trans ho), collectEntries_cons_of_ok ho, ih hrest]
    | error e => rw [collectEntries_cons_of_error (hf.trans ho), collectEntries_cons_of_error ho]

theorem gather_cons_of_holds {f : ScannedFile} {entry : CacheEntry} (h : d.Holds files f entry)
    (all : DefinitionMap) (rest : ScanResult) :
    d.gather files all (f :: rest) = d.gather files (entry.addTo all) rest :=
  collectEntries_cons_of_ok (readEntry_of_holds h) all rest

theorem gather_cons_of_fails {f : ScannedFile} {e : PluginError} (h : d.Fails files f e)
    (all : DefinitionMap) (rest : ScanResult) : d.gather files all (f :: rest) = .error e :=
  collectEntries_cons_of_error (readEntry_of_fails h) all rest

/-- The entry that the cache gave for a file, if it counts. -/
def fittingHit (hits : List (Path × CacheEntry)) (f : ScannedFile) : Option CacheEntry :=
  ((hits.find? fun h => h.1.same f.path).map Prod.snd).filter (fits f.provider)

theorem outcome_entryFor_hit {hits : List (Path × CacheEntry)} {f : ScannedFile}
    {entry : CacheEntry} (h : fittingHit hits f = some entry) (w : Workspace) :
    (d.entryFor hits f).outcome w = (.ok entry, w) := by
  unfold fittingHit at h
  unfold entryFor
  dsimp only
  rw [h]
  rfl

theorem outcome_entryFor_miss {hits : List (Path × CacheEntry)} {f : ScannedFile}
    (h : fittingHit hits f = none) (w : Workspace) :
    (d.entryFor hits f).outcome w =
      match d.load w.files f.path f.provider with
      | .error e => (.error e, w)
      | .ok (entry, some modified) =>
        (.ok entry, ((d.cache.keep f.path modified entry).outcome w).2)
      | .ok (entry, none) => (.ok entry, w) := by
  unfold fittingHit at h
  unfold entryFor
  dsimp only
  rw [h]
  simp only [Action.outcome_bind, Action.outcome_get, Action.outcome_ofExcept]
  rcases d.load w.files f.path f.provider with e | ⟨entry, _ | modified⟩ <;> rfl

def entryGiven (d : DirectoryDiscovery) (files : FileTree) (hits : List (Path × CacheEntry))
    (f : ScannedFile) : Except PluginError CacheEntry :=
  match fittingHit hits f with
  | some entry => .ok entry
  | none => d.readEntry files f

/-! The loop over the files of a scan. Whatever decides the entry of each file, the answer is the
entries put together. -/

def visit (d : DirectoryDiscovery) (hits : List (Path × CacheEntry)) (found : ScanResult)
    (all : DefinitionMap) : Action Workspace DefinitionMap :=
  found.foldlM (fun all f => do
    let entry ← d.entryFor hits f
    addEntry f entry all) all

theorem outcome_visit_cons_of_ok {hits : List (Path × CacheEntry)} {f : ScannedFile}
    {entry : CacheEntry} {w t : Workspace} (h : (d.entryFor hits f).outcome w = (.ok entry, t))
    (rest : ScanResult) (all : DefinitionMap) :
    (d.visit hits (f :: rest) all).outcome w = (d.visit hits rest (entry.addTo all)).outcome t := by
  unfold visit
  rw [List.foldlM_cons, Action.outcome_bind, Action.outcome_bind_ok h, outcome_addEntry]

theorem outcome_visit_cons_of_error {hits : List (Path × CacheEntry)} {f : ScannedFile}
    {e : PluginError} {w t : Workspace} (h : (d.entryFor hits f).outcome w = (.error e, t))
    (rest : ScanResult) (all : DefinitionMap) :
    (d.visit hits (f :: rest) all).outcome w = (.error e, t) := by
  unfold visit
  rw [List.foldlM_cons, Action.outcome_bind, Action.outcome_bind_error h]

/-- If getting a file's entry comes to `entry`, whatever was done before, then the loop over files
puts these together. `Inv` is what holds of the workspace between the files. -/
theorem outcome_visit {hits : List (Path × CacheEntry)}
    {entry : ScannedFile → Except PluginError CacheEntry} (Inv : Workspace → Prop)
    {found : ScanResult}
    (step : ∀ f ∈ found, ∀ w, Inv w →
      ∃ t, (d.entryFor hits f).outcome w = (entry f, t) ∧ Inv t)
    (all : DefinitionMap) {w : Workspace} (hw : Inv w) :
    ∃ t, (d.visit hits found all).outcome w = (collectEntries entry all found, t) ∧ Inv t := by
  induction found generalizing all w with
  | nil => exact ⟨w, rfl, hw⟩
  | cons f rest ih =>
    obtain ⟨t, hstep, ht⟩ := step f List.mem_cons_self w hw
    have hrest := ih (fun g hg => step g (List.mem_cons_of_mem _ hg))
    cases hf : entry f with
    | ok e =>
      rw [hf] at hstep
      obtain ⟨u, hloop, hu⟩ := hrest (e.addTo all) ht
      refine ⟨u, ?_, hu⟩
      rw [outcome_visit_cons_of_ok hstep, hloop, collectEntries_cons_of_ok hf]
    | error e =>
      rw [hf] at hstep
      refine ⟨t, ?_, ht⟩
      rw [outcome_visit_cons_of_error hstep, collectEntries_cons_of_error hf]

theorem outcome_definitions (d : DirectoryDiscovery) (w : Workspace) :
    d.definitions.outcome w =
      let asked := (d.cache.lookupAll ((d.scanned w.files).map ScannedFile.path)).outcome w
      (d.visit asked.1 (d.scanned w.files) .empty).outcome asked.2 := by
  unfold definitions
  simp only [Action.outcome_bind, Action.outcome_get, Action.outcome_ofTraced,
    Action.outcome_ofStep, Action.outcome_log, Action.outcome_pure]
  unfold scanned visit
  rcases Action.outcome _ _ with ⟨_ | _, _⟩ <;> rfl

theorem outcome_lookupAll_null (paths : List Path) (w : Workspace) :
    (DefinitionCache.null.lookupAll paths).outcome w = ([], w) := by
  unfold DefinitionCache.lookupAll
  induction paths with
  | nil => rfl
  | cons path rest ih =>
    rw [List.foldlM_cons]
    exact ih

theorem outcome_entryFor_uncached (f : ScannedFile) (w : Workspace) :
    (d.uncached.entryFor [] f).outcome w = (d.readEntry w.files f, w) := by
  rw [outcome_entryFor_miss rfl]
  unfold readEntry
  change (match d.load w.files f.path f.provider with
    | .error e => _
    | .ok (entry, some modified) => _
    | .ok (entry, none) => _) = _
  rcases d.load w.files f.path f.provider with e | ⟨entry, _ | modified⟩ <;> rfl

theorem outcome_definitions_uncached (d : DirectoryDiscovery) (w : Workspace) :
    d.uncached.definitions.outcome w = (d.gather w.files .empty (d.scanned w.files), w) := by
  have step : ∀ f ∈ d.scanned w.files, ∀ t, t = w →
      ∃ u, (d.uncached.entryFor [] f).outcome t = (d.readEntry w.files f, u) ∧ u = w := by
    rintro f - t rfl
    exact ⟨t, outcome_entryFor_uncached f t, rfl⟩
  obtain ⟨u, hloop, rfl⟩ := outcome_visit (· = w) step .empty rfl
  have hlookup : (d.uncached.cache.lookupAll
      ((d.uncached.scanned u.files).map ScannedFile.path)).outcome u = ([], u) :=
    outcome_lookupAll_null _ u
  rw [outcome_definitions, hlookup]
  exact hloop

/-! The order of the scan decides: the first file that fails ends the loop, and the last definition
of an id stays. -/

/-- `f` is the first of the files that fails, and fails with `e`. -/
def FailsFirst (d : DirectoryDiscovery) (files : FileTree) (found : ScanResult) (f : ScannedFile)
    (e : PluginError) : Prop :=
  ∃ before after, found = before ++ f :: after ∧ (∀ g ∈ before, ∃ entry, d.Holds files g entry) ∧
    d.Fails files f e

def HoldsNone (d : DirectoryDiscovery) (files : FileTree) (found : ScanResult) (id : String) : Prop :=
  ∀ f ∈ found, ∀ other, d.Holds files f (.definition other) → other.id ≠ id

/-- `f` is the last of the files that holds a definition under `id`. -/
def HoldsLast (d : DirectoryDiscovery) (files : FileTree) (found : ScanResult) (id : String)
    (f : ScannedFile) (definition : Definition) : Prop :=
  ∃ before after, found = before ++ f :: after ∧ d.Holds files f (.definition definition) ∧
    definition.id = id ∧ d.HoldsNone files after id

theorem holds_unique {f : ScannedFile} {entry other : CacheEntry} (h : d.Holds files f entry)
    (ho : d.Holds files f other) : entry = other :=
  Except.ok.inj ((readEntry_of_holds h).symm.trans (readEntry_of_holds ho))

theorem not_fails_of_holds {f : ScannedFile} {entry : CacheEntry} {e : PluginError}
    (h : d.Holds files f entry) : ¬d.Fails files f e := by
  intro he
  have := (readEntry_of_holds h).symm.trans (readEntry_of_fails he)
  cases this

theorem gather_eq_error_iff {all : DefinitionMap} {found : ScanResult} {e : PluginError} :
    d.gather files all found = .error e ↔ ∃ f, d.FailsFirst files found f e := by
  induction found generalizing all with
  | nil =>
    constructor
    · intro h
      cases h
    · rintro ⟨f, before, after, h, -⟩
      simp at h
  | cons f rest ih =>
    rcases holds_or_fails d files f with ⟨entry, hf⟩ | ⟨e', hf⟩
    · rw [gather_cons_of_holds hf, ih]
      constructor
      · rintro ⟨g, before, after, rfl, hbefore, hg⟩
        exact ⟨g, f :: before, after, rfl, List.forall_mem_cons.2 ⟨⟨entry, hf⟩, hbefore⟩, hg⟩
      · rintro ⟨g, before, after, h, hbefore, hg⟩
        cases before with
        | nil => exact absurd (List.cons.inj h).1 fun heq => not_fails_of_holds hf (heq ▸ hg)
        | cons b before =>
          obtain ⟨-, hrest⟩ := List.cons.inj h
          exact ⟨g, before, after, hrest, (List.forall_mem_cons.1 hbefore).2, hg⟩
    · rw [gather_cons_of_fails hf]
      constructor
      · intro h
        exact ⟨f, [], rest, rfl, by simp, Except.error.inj h ▸ hf⟩
      · rintro ⟨g, before, after, h, hbefore, hg⟩
        cases before with
        | nil =>
          obtain ⟨rfl, -⟩ := List.cons.inj h
          have heq := (readEntry_of_fails hf).symm.trans (readEntry_of_fails hg)
          rw [Except.error.inj heq]
        | cons b before =>
          obtain ⟨rfl, -⟩ := List.cons.inj h
          obtain ⟨entry, hb⟩ := hbefore f List.mem_cons_self
          exact absurd hf (not_fails_of_holds hb)

theorem exists_gather_eq_ok_iff {all : DefinitionMap} {found : ScanResult} :
    (∃ result, d.gather files all found = .ok result) ↔ ∀ f ∈ found, ∃ entry, d.Holds files f entry := by
  induction found generalizing all with
  | nil => simp [gather, pure, Except.pure]
  | cons f rest ih =>
    rw [List.forall_mem_cons]
    rcases holds_or_fails d files f with ⟨entry, hf⟩ | ⟨e, hf⟩
    · rw [gather_cons_of_holds hf, ih]
      exact ⟨fun h => ⟨⟨entry, hf⟩, h⟩, And.right⟩
    · rw [gather_cons_of_fails hf]
      constructor
      · rintro ⟨_, h⟩
        cases h
      · rintro ⟨⟨entry, hh⟩, -⟩
        exact absurd hf (not_fails_of_holds hh)

theorem get?_addTo_definition (all : DefinitionMap) (definition : Definition) (id : String) :
    ((CacheEntry.definition definition).addTo all).get? id =
      if definition.id = id then some definition else all.get? id :=
  KeyedMap.get?_insert all definition.id id definition

theorem exists_entry_of_get?_collectEntries {entry : ScannedFile → Except PluginError CacheEntry}
    {all result : DefinitionMap} {found : ScanResult}
    (h : collectEntries entry all found = .ok result) {id : String} {definition : Definition}
    (hget : result.get? id = some definition) :
    all.get? id = some definition ∨ ∃ f ∈ found, entry f = .ok (.definition definition) := by
  induction found generalizing all with
  | nil =>
    cases h
    exact .inl hget
  | cons f rest ih =>
    cases hf : entry f with
    | error e =>
      rw [collectEntries_cons_of_error hf] at h
      cases h
    | ok e =>
      rw [collectEntries_cons_of_ok hf] at h
      rcases ih h with hbefore | ⟨g, hg, hentry⟩
      · cases e with
        | empty => exact .inl hbefore
        | definition held =>
          rw [get?_addTo_definition] at hbefore
          split at hbefore
          · cases hbefore
            exact .inr ⟨f, List.mem_cons_self, hf⟩
          · exact .inl hbefore
      · exact .inr ⟨g, List.mem_cons_of_mem _ hg, hentry⟩

theorem holdsNone_cons {f : ScannedFile} {rest : ScanResult} {id : String} :
    d.HoldsNone files (f :: rest) id ↔
      (∀ other, d.Holds files f (.definition other) → other.id ≠ id) ∧ d.HoldsNone files rest id :=
  List.forall_mem_cons

theorem exists_holdsLast_cons {f : ScannedFile} {rest : ScanResult} {id : String}
    {definition : Definition} :
    (∃ g, d.HoldsLast files (f :: rest) id g definition) ↔
      (∃ g, d.HoldsLast files rest id g definition) ∨
        (d.Holds files f (.definition definition) ∧ definition.id = id ∧
          d.HoldsNone files rest id) := by
  constructor
  · rintro ⟨g, before, after, h, hg, hid, hafter⟩
    cases before with
    | nil =>
      obtain ⟨rfl, rfl⟩ := List.cons.inj h
      exact .inr ⟨hg, hid, hafter⟩
    | cons b before =>
      obtain ⟨-, rfl⟩ := List.cons.inj h
      exact .inl ⟨g, before, after, rfl, hg, hid, hafter⟩
  · rintro (⟨g, before, after, rfl, hg, hid, hafter⟩ | ⟨hf, hid, hrest⟩)
    · exact ⟨g, f :: before, after, rfl, hg, hid, hafter⟩
    · exact ⟨f, [], rest, rfl, hf, hid, hrest⟩

theorem holdsNone_or_exists_holdsLast (d : DirectoryDiscovery) (files : FileTree)
    (found : ScanResult) (id : String) :
    d.HoldsNone files found id ∨ ∃ f definition, d.HoldsLast files found id f definition := by
  induction found with
  | nil => exact .inl fun _ h => absurd h List.not_mem_nil
  | cons f rest ih =>
    rcases ih with hrest | ⟨g, definition, hg⟩
    · rcases Classical.em (∃ other, d.Holds files f (.definition other) ∧ other.id = id) with
        ⟨other, ho, hid⟩ | hnot
      · exact .inr ⟨f, other, [], rest, rfl, ho, hid, hrest⟩
      · exact .inl (holdsNone_cons.2 ⟨fun other ho hid => hnot ⟨other, ho, hid⟩, hrest⟩)
    · obtain ⟨h, hh⟩ := exists_holdsLast_cons.2 (.inl ⟨g, hg⟩)
      exact .inr ⟨h, definition, hh⟩

theorem get?_gather {all result : DefinitionMap} {found : ScanResult}
    (h : d.gather files all found = .ok result) (id : String) (definition : Definition) :
    result.get? id = some definition ↔
      (∃ f, d.HoldsLast files found id f definition) ∨
        (d.HoldsNone files found id ∧ all.get? id = some definition) := by
  induction found generalizing all with
  | nil =>
    cases h
    constructor
    · intro h
      exact .inr ⟨by simp [HoldsNone], h⟩
    · rintro (⟨f, before, after, h, -⟩ | ⟨-, h⟩)
      · simp at h
      · exact h
  | cons f rest ih =>
    obtain ⟨entry, hf⟩ := exists_gather_eq_ok_iff.1 ⟨result, h⟩ f List.mem_cons_self
    rw [gather_cons_of_holds hf] at h
    rw [ih h, exists_holdsLast_cons, holdsNone_cons]
    cases entry with
    | empty =>
      have hnot : ∀ other, ¬d.Holds files f (.definition other) :=
        fun other ho => by cases holds_unique hf ho
      simp [hnot, CacheEntry.addTo]
    | definition held =>
      have hheld : ∀ other, d.Holds files f (.definition other) ↔ other = held := by
        intro other
        constructor
        · intro ho
          cases holds_unique hf ho
          rfl
        · rintro rfl
          exact hf
      simp only [hheld, get?_addTo_definition]
      by_cases hid : held.id = id
      · simp only [hid]
        grind
      · grind

theorem get?_gather_empty {all : DefinitionMap} {found : ScanResult}
    (h : d.gather files .empty found = .ok all) (id : String) (definition : Definition) :
    all.get? id = some definition ↔ ∃ f, d.HoldsLast files found id f definition := by
  rw [get?_gather h id definition]
  simp

theorem isSome_get?_gather_iff {all : DefinitionMap} {found : ScanResult}
    (h : d.gather files .empty found = .ok all) (id : String) :
    (all.get? id).isSome ↔
      ∃ f ∈ found, ∃ definition, d.Holds files f (.definition definition) ∧ definition.id = id := by
  rw [Option.isSome_iff_exists]
  constructor
  · rintro ⟨definition, hget⟩
    obtain ⟨f, before, after, hfound, hf, hid, -⟩ := (get?_gather_empty h id definition).1 hget
    exact ⟨f, by simp [hfound], definition, hf, hid⟩
  · rintro ⟨f, hmem, definition, hf, hid⟩
    rcases holdsNone_or_exists_holdsLast d files found id with hnone | ⟨g, last, hg⟩
    · exact absurd hid (hnone f hmem definition hf)
    · exact ⟨last, (get?_gather_empty h id last).2 ⟨g, hg⟩⟩

theorem HoldsLast.id_provider_source {found : ScanResult} {id : String} {f : ScannedFile}
    {definition : Definition} (h : d.HoldsLast files found id f definition) :
    definition.id = id ∧ definition.provider = f.provider ∧ definition.source = some f.path := by
  obtain ⟨before, after, -, hf, hid, -⟩ := h
  exact ⟨hid, provider_source_of_holds hf⟩

/-- Without a cache, a discovery succeeds exactly when every scanned file holds something, and else
reports the first file that fails. What it then answers under an id is the definition that the last
file with that id holds, with the provider and the path that the scan gave to that file. -/
theorem definitions_lastWins_without_loss (d : DirectoryDiscovery) (w : Workspace) :
    let found := d.scanned w.files
    let result := d.uncached.definitions.result w
    ((∃ all, result = .ok all) ↔ ∀ f ∈ found, ∃ entry, d.Holds w.files f entry) ∧
    (∀ e, result = .error e ↔ ∃ f, d.FailsFirst w.files found f e) ∧
    ∀ all, result = .ok all →
      (∀ id, (all.get? id).isSome ↔
        ∃ f ∈ found, ∃ definition, d.Holds w.files f (.definition definition) ∧ definition.id = id) ∧
      ∀ id definition, all.get? id = some definition ↔
        ∃ f, d.HoldsLast w.files found id f definition ∧ definition.id = id ∧
          definition.provider = f.provider ∧ definition.source = some f.path := by
  intro found result
  have hresult : result = d.gather w.files .empty found :=
    congrArg Prod.fst (outcome_definitions_uncached d w)
  rw [hresult]
  refine ⟨exists_gather_eq_ok_iff, fun e => gather_eq_error_iff, fun all hall => ?_⟩
  refine ⟨fun id => isSome_get?_gather_iff hall id, fun id definition => ?_⟩
  rw [get?_gather_empty hall]
  constructor
  · rintro ⟨f, h⟩
    exact ⟨f, h, h.id_provider_source⟩
  · rintro ⟨f, h, -⟩
    exact ⟨f, h⟩

end DirectoryDiscovery

end PluginHost
