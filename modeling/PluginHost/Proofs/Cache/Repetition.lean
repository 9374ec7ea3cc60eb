import PluginHost.Proofs.Cache.Transparency

/-!
A discovery that is asked again about the same files answers the same and leaves the store as it is,
whatever the store held before the first time, if no two of its files have one key. What was kept the
first time counts now, and what was read without being kept is read again.
-/
namespace PluginHost.DirectoryDiscovery

open DefinitionCache (keyOf valid?)

/-- Every scanned path leads to a place, to which no other one leads. -/
def ResolveApart (files : FileTree) (found : ScanResult) : Prop :=
  ∀ f ∈ found, ∃ place, files.resolve f.path = some place ∧
    ∀ g ∈ found, files.resolve g.path = some place → g = f

/-- No two scanned files have one key. -/
def KeysDiffer (suffix : String) (files : FileTree) (found : ScanResult) : Prop :=
  ∀ f ∈ found, ∀ g ∈ found, keyOf suffix files f.path = keyOf suffix files g.path → f = g

/-- The entries kept for the files of a scan have the files' times. -/
def Fresh (suffix : String) (files : FileTree) (found : ScanResult) (store : CacheStore) : Prop :=
  ∀ f ∈ found, ∀ stored, store.get? (keyOf suffix files f.path) = some stored →
    files.modified? f.path = some stored.modified

variable {d : DirectoryDiscovery} {suffix : String} {files : FileTree} {found : ScanResult}
  {f g : ScannedFile} {w t u : Workspace}

theorem ResolveApart.keysDiffer (h : ResolveApart files found)
    (hapart : DefinitionCache.KeysApart suffix fun place =>
      ∃ f ∈ found, files.resolve f.path = some place) : KeysDiffer suffix files found := by
  intro f hf g hg hkey
  obtain ⟨place, hplace, hone⟩ := h g hg
  obtain ⟨other, hother, -⟩ := h f hf
  rw [DefinitionCache.keyOf_of_resolve hplace, DefinitionCache.keyOf_of_resolve hother] at hkey
  obtain rfl : other = place := hapart other place ⟨f, hf, hother⟩ ⟨g, hg, hplace⟩ hkey
  exact hone f hf hother

theorem KeysDiffer.pairwise (h : KeysDiffer suffix files found) (hpaths : found.PathsDiffer) :
    found.Pairwise fun f g => keyOf suffix files f.path ≠ keyOf suffix files g.path := by
  refine List.Pairwise.imp_of_mem (fun {f g} hf hg hpath hkey => hpath ?_) hpaths
  rw [h f hf g hg hkey]
  exact Path.same_refl _

theorem fresh_lookedUp (d : DirectoryDiscovery) (suffix : String) (w : Workspace) :
    Fresh suffix w.files (d.scanned w.files) (d.lookedUp suffix w).store := by
  intro f hf stored hget
  exact (get?_lookedUp_eq_some_iff.1 hget).2 f hf rfl

theorem lookedUp_of_fresh (h : Fresh suffix w.files (d.scanned w.files) w.store) :
    d.lookedUp suffix w = w := by
  have hfiles : (d.lookedUp suffix w).files = w.files := (d.lookedUp_shrinks suffix w).1
  have hstore : (d.lookedUp suffix w).store = w.store := by
    apply KeyedMap.ext_get?
    intro key
    apply Option.ext
    intro stored
    rw [get?_lookedUp_eq_some_iff]
    exact ⟨And.left, fun hget => ⟨hget, fun f hf hkey => h f hf stored (hkey ▸ hget)⟩⟩
  calc d.lookedUp suffix w = ⟨(d.lookedUp suffix w).files, (d.lookedUp suffix w).store⟩ := rfl
    _ = w := by rw [hfiles, hstore]

theorem Fresh.insert {store : CacheStore} (h : Fresh suffix files found store)
    (hkeys : KeysDiffer suffix files found) (hf : f ∈ found) {entry : CacheEntry} {modified : Nat}
    (htime : files.modified? f.path = some modified) :
    Fresh suffix files found (store.insert (keyOf suffix files f.path) { modified, entry }) := by
  intro g hg stored hget
  rw [KeyedMap.get?_insert] at hget
  split at hget
  · next hkey =>
    cases hget
    rw [← hkeys f hf g hg hkey]
    exact htime
  · exact h g hg stored hget

theorem fitting_congr (hfiles : t.files = u.files)
    (hget : t.store.get? (keyOf suffix u.files f.path) = u.store.get? (keyOf suffix u.files f.path)) :
    fitting suffix t f = fitting suffix u f := by
  unfold fitting valid?
  rw [hfiles, hget]

theorem fits_of_holds {entry : CacheEntry} (h : d.Holds files f entry) :
    fits f.provider entry = true := by
  cases entry with
  | empty => rfl
  | definition => exact decide_eq_true (provider_source_of_holds h).1

theorem Gets.again {hits hitsAgain : List (Path × CacheEntry)}
    {result : Except PluginError CacheEntry} (h : Gets d suffix hits f w result u)
    (hhits : fittingHit hits f = fitting suffix w f) (hfiles : t.files = u.files)
    (hget : t.store.get? (keyOf suffix u.files f.path) = u.store.get? (keyOf suffix u.files f.path))
    (hagain : fittingHit hitsAgain f = fitting suffix t f) :
    (d.entryFor hitsAgain f).outcome t = (result, t) := by
  rw [fitting_congr hfiles hget] at hagain
  cases h with
  | hit fits => exact outcome_entryFor_hit (hagain.trans (hhits.symm.trans fits)) t
  | fails miss fails =>
    rw [outcome_entryFor_miss (hagain.trans (hhits.symm.trans miss)), hfiles, load_of_fails fails]
  | timeless miss holds timeless =>
    rw [outcome_entryFor_miss (hagain.trans (hhits.symm.trans miss)), hfiles, load_of_holds holds,
      timeless]
  | @kept entry modified miss holds time =>
    -- what was kept has the file's time and provider, so that it counts now
    refine outcome_entryFor_hit (hagain.trans (fitting_eq_some_iff.2 ⟨?_, fits_of_holds holds⟩)) t
    exact DefinitionCache.valid?_eq_some_iff.2 ⟨⟨modified, entry⟩, by simp, time, rfl⟩

theorem Gets.frame {hits : List (Path × CacheEntry)} {result : Except PluginError CacheEntry}
    (h : Gets d suffix hits f w result u) {key : String} (hne : keyOf suffix w.files f.path ≠ key) :
    u.store.get? key = w.store.get? key := by
  cases h with
  | hit | fails | timeless => rfl
  | kept => simp [hne]

theorem Gets.files_eq {hits : List (Path × CacheEntry)} {result : Except PluginError CacheEntry}
    (h : Gets d suffix hits f w result u) : u.files = w.files := by
  cases h <;> rfl

theorem visit_frame (h : d.cache = .file suffix) {hits : List (Path × CacheEntry)}
    {all : DefinitionMap} {result : Except PluginError DefinitionMap}
    (hvisit : (d.visit hits found all).outcome w = (result, t)) (key : String)
    (hne : ∀ f ∈ found, keyOf suffix w.files f.path ≠ key) :
    t.files = w.files ∧ t.store.get? key = w.store.get? key := by
  have hkeep : ∀ f ∈ found, ∀ (store : CacheStore) (entry : CacheEntry) (modified : Nat),
      store.get? key = w.store.get? key →
      (store.insert (keyOf suffix w.files f.path) { modified, entry }).get? key =
        w.store.get? key := by
    intro f hf store entry modified hstore
    rw [KeyedMap.get?_insert, if_neg (hne f hf), hstore]
  obtain ⟨t', houtcome, hfiles, hget⟩ := outcome_visit_cached h hits
    (fun store => store.get? key = w.store.get? key)
    (fun f hf store entry modified _ _ _ => hkeep f hf store entry modified) all rfl rfl
  cases houtcome.symm.trans hvisit
  exact ⟨hfiles, hget⟩

theorem outcome_visit_again (h : d.cache = .file suffix) (hits : List (Path × CacheEntry))
    {hitsAgain : List (Path × CacheEntry)}
    (hkeys : found.Pairwise fun f g => keyOf suffix w.files f.path ≠ keyOf suffix w.files g.path)
    (hhits : ∀ f ∈ found, fittingHit hits f = fitting suffix w f) {all : DefinitionMap}
    {result : Except PluginError DefinitionMap}
    (hvisit : (d.visit hits found all).outcome w = (result, t))
    (hagain : ∀ f ∈ found, fittingHit hitsAgain f = fitting suffix t f) :
    (d.visit hitsAgain found all).outcome t = (result, t) := by
  induction found generalizing all w with
  | nil =>
    cases hvisit
    rfl
  | cons f rest ih =>
    obtain ⟨hfirst, hrest⟩ := List.pairwise_cons.1 hkeys
    obtain ⟨hhit, hhitsRest⟩ := List.forall_mem_cons.1 hhits
    obtain ⟨hagainNow, hagainRest⟩ := List.forall_mem_cons.1 hagain
    obtain ⟨got, u, houtcome, hgets⟩ := gets_entryFor h hits f w
    have hfiles := hgets.files_eq
    cases got with
    | error e =>
      cases (outcome_visit_cons_of_error houtcome rest all).symm.trans hvisit
      exact outcome_visit_cons_of_error (hgets.again hhit rfl rfl hagainNow) rest all
    | ok entry =>
      rw [outcome_visit_cons_of_ok houtcome] at hvisit
      -- the files after this one have other keys, so its entry is still there in the end
      obtain ⟨hfilesRest, hget⟩ := visit_frame h hvisit (keyOf suffix u.files f.path)
        fun g hg hkey => hfirst g hg (hfiles ▸ hkey.symm)
      rw [outcome_visit_cons_of_ok (hgets.again hhit hfilesRest hget hagainNow)]
      refine ih (hfiles ▸ hrest) (fun g hg => ?_) hvisit hagainRest
      rw [hhitsRest g hg]
      exact (fitting_congr hfiles (hgets.frame (hfirst g hg))).symm

/-- A discovery whose scanned files have different keys, asked twice about the same files, answers the
same both times, and the second time leaves the workspace as the first time did. -/
theorem definitions_repeatable (h : d.cache = .file suffix) (w : Workspace)
    (hkeys : KeysDiffer suffix w.files (d.scanned w.files)) :
    d.definitions.result (d.definitions.after w) = d.definitions.result w ∧
      d.definitions.after (d.definitions.after w) = d.definitions.after w := by
  have hlooked := (d.lookedUp_shrinks suffix w).1
  obtain ⟨t, hvisit, hfiles, hfresh⟩ := outcome_visit_cached h (d.hits suffix w)
    (Fresh suffix w.files (d.scanned w.files))
    (fun f hf store entry modified _ _ htime hstore => hstore.insert hkeys hf htime) .empty hlooked
    (fresh_lookedUp d suffix w)
  have hfirst : d.definitions.outcome w =
      (collectEntries (d.entryGiven w.files (d.hits suffix w)) .empty (d.scanned w.files), t) :=
    (outcome_definitions_cached h w).trans hvisit
  have hone : ∀ f ∈ d.scanned w.files, ∀ g ∈ d.scanned w.files,
      keyOf suffix w.files g.path = keyOf suffix w.files f.path →
        w.files.modified? g.path = w.files.modified? f.path := by
    intro f hf g hg hkey
    rw [hkeys g hg f hf hkey]
  -- no entry that the first time left is outdated, so the lookups of the second time drop none
  have hunchanged : d.lookedUp suffix t = t := lookedUp_of_fresh (hfiles ▸ hfresh)
  have hagain : (d.visit (d.hits suffix t) (d.scanned w.files) .empty).outcome t =
      (collectEntries (d.entryGiven w.files (d.hits suffix w)) .empty (d.scanned w.files), t) := by
    apply outcome_visit_again h (d.hits suffix w) (w := d.lookedUp suffix w) _ _ hvisit
    · intro f hf
      rw [← hfiles] at hf hone
      rw [fittingHit_hits hf (hone f hf), hunchanged]
    · rw [hlooked]
      exact hkeys.pairwise (Scanner.pathsDiffer_scan _ _ _)
    · intro f hf
      exact fittingHit_hits hf (hone f hf)
  have hsecond : d.definitions.outcome t = d.definitions.outcome w := by
    rw [outcome_definitions_cached h, hunchanged, hfiles, hagain, hfirst]
  have hafter : d.definitions.after w = t := congrArg Prod.snd hfirst
  rw [hafter]
  exact ⟨congrArg Prod.fst hsecond, (congrArg Prod.snd hsecond).trans hafter⟩

def sampleDiscovery : DirectoryDiscovery where
  directories := { entries := [("core", [⟨"/"⟩])] }
  scanner := { suffix := ".yml" }
  parser := .ofFormat .yaml
  cache := .file "plugins"

def sampleFiles : FileTree :=
  (FileTree.single "first.yml" "id: block\n".toUTF8 5).write ⟨"/second.yml"⟩ "- block\n".toUTF8 6

/-- The first file has a valid entry that is wrong, the second one an outdated entry. -/
def sampleStore : CacheStore :=
  (KeyedMap.empty.insert "trellis_definitions:plugins:/first.yml" ⟨5, .empty⟩).insert
    "trellis_definitions:plugins:/second.yml" ⟨5, .empty⟩

theorem scanned_sampleDiscovery :
    sampleDiscovery.scanned sampleFiles = [⟨⟨"/first.yml"⟩, "core"⟩, ⟨⟨"/second.yml"⟩, "core"⟩] := by
  decide +kernel

theorem resolve_sampleFiles :
    sampleFiles.resolve ⟨"/first.yml"⟩ = some (["first.yml"] : Location) ∧
      sampleFiles.resolve ⟨"/second.yml"⟩ = some (["second.yml"] : Location) := by
  decide +kernel

theorem resolveApart_sampleFiles :
    ResolveApart sampleFiles (sampleDiscovery.scanned sampleFiles) := by
  obtain ⟨hfirst, hsecond⟩ := resolve_sampleFiles
  rw [scanned_sampleDiscovery]
  intro f hf
  rcases List.mem_cons.1 hf with rfl | hf
  · exact ⟨_, hfirst, by simp [hfirst, hsecond, OsText.ofString_inj]⟩
  · cases List.mem_singleton.1 hf
    exact ⟨_, hsecond, by simp [hfirst, hsecond, OsText.ofString_inj]⟩

theorem keysDiffer_sampleFiles :
    KeysDiffer "plugins" sampleFiles (sampleDiscovery.scanned sampleFiles) := by
  apply resolveApart_sampleFiles.keysDiffer
  apply DefinitionCache.keysApart_of_inUtf8
  · rintro place ⟨f, -, hplace⟩
    exact FileTree.named_of_resolve hplace
  · rintro place ⟨f, hf, hplace⟩ name hname
    rw [scanned_sampleDiscovery] at hf
    simp only [List.mem_cons, List.not_mem_nil, or_false] at hf
    obtain ⟨hfirst, hsecond⟩ := resolve_sampleFiles
    rcases hf with rfl | rfl
    · cases hfirst.symm.trans hplace
      exact ⟨_, List.mem_singleton.1 hname⟩
    · cases hsecond.symm.trans hplace
      exact ⟨_, List.mem_singleton.1 hname⟩

/-- A wrong and an outdated entry do not change that. -/
theorem sampleDiscovery_repeatable :
    let first := sampleDiscovery.definitions.after ⟨sampleFiles, sampleStore⟩
    sampleDiscovery.cache = .file "plugins" ∧
      KeysDiffer "plugins" sampleFiles (sampleDiscovery.scanned sampleFiles) ∧
      sampleDiscovery.definitions.result first =
        sampleDiscovery.definitions.result ⟨sampleFiles, sampleStore⟩ ∧
      sampleDiscovery.definitions.after first = first :=
  ⟨rfl, keysDiffer_sampleFiles, definitions_repeatable rfl ⟨sampleFiles, sampleStore⟩
    keysDiffer_sampleFiles⟩

/-- Two files that are shown alike are both read the first time; the second time the entry of one
counts for both. -/
theorem not_always_repeatable :
    ¬∀ (d : DirectoryDiscovery) (suffix : String) (w : Workspace), d.cache = .file suffix →
      ResolveApart w.files (d.scanned w.files) →
        d.definitions.result (d.definitions.after w) = d.definitions.result w := by
  intro h
  have hids := congrArg (fun answer => answer.toOption.map KeyedMap.keys)
    (h (SharedCache.sampleCache.discovery SharedCache.twinQuestion) "plugins"
      { files := SharedCache.twinDefinitions } rfl ?_)
  · revert hids
    decide +kernel
  · intro f hf
    obtain ⟨byte, -, hleads⟩ := SharedCache.exists_twin_of_scanned hf
    exact ⟨_, hleads, fun g hg hother => SharedCache.eq_of_scanned_twins hf hg hleads hother⟩

end PluginHost.DirectoryDiscovery
