import PluginHost.Proofs.Cache.Lookup
import PluginHost.Proofs.Discovery.Aggregation
import PluginHost.Proofs.Scan

/-!
How a discovery with a cache goes through the files of its scan. A hit counts for a file only if it
was the file's valid entry when the files were looked up; all that is done to the store after that is
to keep what files hold that have no such hit.
-/
namespace PluginHost.DirectoryDiscovery

open DefinitionCache (keyOf valid?)

variable {d : DirectoryDiscovery} {suffix : String} {w : Workspace} {f : ScannedFile}
  {entry : CacheEntry}

def fitting (suffix : String) (w : Workspace) (f : ScannedFile) : Option CacheEntry :=
  (valid? suffix w f.path).filter (fits f.provider)

def hits (d : DirectoryDiscovery) (suffix : String) (w : Workspace) : List (Path × CacheEntry) :=
  (((DefinitionCache.file suffix).lookupAll ((d.scanned w.files).map ScannedFile.path)).outcome w).1

def lookedUp (d : DirectoryDiscovery) (suffix : String) (w : Workspace) : Workspace :=
  (((DefinitionCache.file suffix).lookupAll ((d.scanned w.files).map ScannedFile.path)).outcome w).2

theorem outcome_definitions_cached (h : d.cache = .file suffix) (w : Workspace) :
    d.definitions.outcome w =
      (d.visit (d.hits suffix w) (d.scanned w.files) .empty).outcome (d.lookedUp suffix w) := by
  rw [outcome_definitions, h]
  rfl

theorem lookedUp_shrinks (d : DirectoryDiscovery) (suffix : String) (w : Workspace) :
    DefinitionCache.Shrinks w (d.lookedUp suffix w) :=
  (DefinitionCache.lookupAll_shrinks_and_hits suffix _ w).1

theorem get?_lookedUp_eq_some_iff {key : String} {stored : StoredEntry} :
    (d.lookedUp suffix w).store.get? key = some stored ↔
      w.store.get? key = some stored ∧ ∀ f ∈ d.scanned w.files,
        keyOf suffix w.files f.path = key → w.files.modified? f.path = some stored.modified := by
  unfold lookedUp
  rw [DefinitionCache.outcome_lookupAll, DefinitionCache.get?_lookupFrom_eq_some_iff,
    List.forall_mem_map]

theorem fitting_eq_some_iff :
    fitting suffix w f = some entry ↔
      valid? suffix w f.path = some entry ∧ fits f.provider entry = true :=
  Option.filter_eq_some_iff

/-- The scan lists no path twice, so that a hit for a file is the file's own. -/
theorem valid?_of_hit (hf : f ∈ d.scanned w.files) {hit : Path × CacheEntry}
    (hfind : (d.hits suffix w).find? (fun h => h.1.same f.path) = some hit) :
    valid? suffix w f.path = some hit.2 := by
  have hsame := List.find?_some hfind
  obtain ⟨path, hpath, hsamePath, hvalid⟩ :=
    (DefinitionCache.lookupAll_shrinks_and_hits suffix _ w).2 hit (List.mem_of_find?_eq_some hfind)
  obtain ⟨g, hg, rfl⟩ := List.mem_map.1 hpath
  have hgf : g.path.same f.path = true :=
    Path.same_trans (Path.same_symm hsamePath) hsame
  obtain rfl : g = f := Scanner.eq_of_same_of_mem_scan hg hf hgf
  exact hvalid

theorem fitting_of_fittingHit (hf : f ∈ d.scanned w.files)
    (h : fittingHit (d.hits suffix w) f = some entry) : fitting suffix w f = some entry := by
  obtain ⟨hfound, hfits⟩ := Option.filter_eq_some_iff.1 h
  obtain ⟨hit, hfind, rfl⟩ := Option.map_eq_some_iff.1 hfound
  exact fitting_eq_some_iff.2 ⟨valid?_of_hit hf hfind, hfits⟩

/-- If every path with the file's key sees the file with one time, the file's hit is the entry that
is left after the lookups. -/
theorem fittingHit_hits (hf : f ∈ d.scanned w.files)
    (hone : ∀ g ∈ d.scanned w.files, keyOf suffix w.files g.path = keyOf suffix w.files f.path →
      w.files.modified? g.path = w.files.modified? f.path) :
    fittingHit (d.hits suffix w) f = fitting suffix (d.lookedUp suffix w) f := by
  apply Option.ext
  intro entry
  constructor
  · intro h
    obtain ⟨hvalid, hfits⟩ := fitting_eq_some_iff.1 (fitting_of_fittingHit hf h)
    obtain ⟨stored, hget, htime, hentry⟩ := DefinitionCache.valid?_eq_some_iff.1 hvalid
    have hleft : (d.lookedUp suffix w).store.get? (keyOf suffix w.files f.path) = some stored :=
      get?_lookedUp_eq_some_iff.2 ⟨hget, fun g hg hkey => (hone g hg hkey).trans htime⟩
    refine fitting_eq_some_iff.2 ⟨DefinitionCache.valid?_eq_some_iff.2 ⟨stored, ?_, ?_, hentry⟩, hfits⟩
    · rw [(d.lookedUp_shrinks suffix w).1, hleft]
    · rw [(d.lookedUp_shrinks suffix w).1, htime]
  · intro h
    obtain ⟨hleft, hfits⟩ := fitting_eq_some_iff.1 h
    have hvalid := (d.lookedUp_shrinks suffix w).valid hleft
    have hhit : ∃ hit ∈ d.hits suffix w, hit.1.same f.path = true := by
      unfold hits
      rw [DefinitionCache.outcome_lookupAll]
      exact DefinitionCache.exists_hit_of_valid (List.forall_mem_map.2 hone) hvalid
        (.inl (List.mem_map_of_mem hf))
    obtain ⟨hit, hfind⟩ := Option.isSome_iff_exists.1 (List.find?_isSome.2 hhit)
    have hentry : hit.2 = entry := Option.some.inj ((valid?_of_hit hf hfind).symm.trans hvalid)
    exact Option.filter_eq_some_iff.2 ⟨by rw [hfind, Option.map_some, hentry], hfits⟩

inductive Gets (d : DirectoryDiscovery) (suffix : String) (hits : List (Path × CacheEntry))
    (f : ScannedFile) (w : Workspace) : Except PluginError CacheEntry → Workspace → Prop
  | hit {entry : CacheEntry} (fits : fittingHit hits f = some entry) : Gets d suffix hits f w (.ok entry) w
  | fails {e : PluginError} (miss : fittingHit hits f = none) (fails : d.Fails w.files f e) :
      Gets d suffix hits f w (.error e) w
  | timeless {entry : CacheEntry} (miss : fittingHit hits f = none) (holds : d.Holds w.files f entry)
      (timeless : w.files.modified? f.path = none) : Gets d suffix hits f w (.ok entry) w
  | kept {entry : CacheEntry} {modified : Nat} (miss : fittingHit hits f = none)
      (holds : d.Holds w.files f entry) (time : w.files.modified? f.path = some modified) :
      Gets d suffix hits f w (.ok entry) { w with
        store := w.store.insert (keyOf suffix w.files f.path) { modified, entry } }

theorem gets_entryFor (h : d.cache = .file suffix) (hits : List (Path × CacheEntry)) (f : ScannedFile)
    (w : Workspace) :
    ∃ result t, (d.entryFor hits f).outcome w = (result, t) ∧ Gets d suffix hits f w result t := by
  cases hhit : fittingHit hits f with
  | some entry => exact ⟨_, _, outcome_entryFor_hit hhit w, .hit hhit⟩
  | none =>
    -- a hit for another provider ends here, too: the file is read again and replaces it
    rw [outcome_entryFor_miss hhit, h]
    rcases holds_or_fails d w.files f with ⟨entry, hholds⟩ | ⟨e, hfails⟩
    · rw [load_of_holds hholds]
      cases htime : w.files.modified? f.path with
      | none => exact ⟨_, _, rfl, .timeless hhit hholds htime⟩
      | some modified => exact ⟨_, _, rfl, .kept hhit hholds htime⟩
    · rw [load_of_fails hfails]
      exact ⟨_, _, rfl, .fails hhit hfails⟩

theorem Gets.eq_entryGiven {hits : List (Path × CacheEntry)} {t : Workspace}
    {result : Except PluginError CacheEntry} (h : Gets d suffix hits f w result t) :
    result = d.entryGiven w.files hits f := by
  unfold entryGiven
  cases h with
  | hit fits => rw [fits]
  | fails miss fails => rw [miss, readEntry_of_fails fails]
  | timeless miss holds _ => rw [miss, readEntry_of_holds holds]
  | kept miss holds _ => rw [miss, readEntry_of_holds holds]

/-- Going through files keeps the files as they are, and every property of the store that is kept
when what a file holds is put under its key. -/
theorem outcome_visit_cached (h : d.cache = .file suffix) (hits : List (Path × CacheEntry))
    {files : FileTree} {found : ScanResult} (Inv : CacheStore → Prop)
    (keep : ∀ f ∈ found, ∀ store entry modified, fittingHit hits f = none → d.Holds files f entry →
      files.modified? f.path = some modified → Inv store →
        Inv (store.insert (keyOf suffix files f.path) { modified, entry }))
    (all : DefinitionMap) (hfiles : w.files = files) (hstore : Inv w.store) :
    ∃ t, (d.visit hits found all).outcome w = (collectEntries (d.entryGiven files hits) all found, t) ∧
      t.files = files ∧ Inv t.store := by
  apply outcome_visit (fun u => u.files = files ∧ Inv u.store) _ all ⟨hfiles, hstore⟩
  rintro f hf u ⟨rfl, hu⟩
  obtain ⟨result, t, houtcome, hgets⟩ := gets_entryFor h hits f u
  refine ⟨t, hgets.eq_entryGiven ▸ houtcome, ?_⟩
  cases hgets with
  | hit | fails | timeless => exact ⟨rfl, hu⟩
  | kept miss holds time => exact ⟨rfl, keep f hf _ _ _ miss holds time hu⟩

end PluginHost.DirectoryDiscovery
