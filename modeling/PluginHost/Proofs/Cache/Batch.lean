import PluginHost.Proofs.Cache.Lookup
import PluginHost.Proofs.FileTree.Spelling

/-!
Several paths looked up at once. If those with one key see one time, what one lookup drops was no hit
for any other: together they answer what each answers alone, in whatever order. Paths that are shown
alike can lead to files of different times; then it depends on the order.
-/
namespace PluginHost.DefinitionCache

variable {suffix : String} {files : FileTree} {p q path : Path} {w : Workspace}
  {hits : List (Path × CacheEntry)} {entry other : CacheEntry}

/-- Of these paths, those with one key see the file with one time. -/
def OneTimePerKey (suffix : String) (files : FileTree) (paths : List Path) : Prop :=
  ∀ p ∈ paths, ∀ q ∈ paths, keyOf suffix files p = keyOf suffix files q →
    files.modified? p = files.modified? q

theorem entry_eq_of_same (hsame : p.same q = true) (hp : valid? suffix w p = some entry)
    (hq : valid? suffix w q = some other) : entry = other := by
  obtain ⟨stored, hstored, htime, rfl⟩ := valid?_eq_some_iff.1 hp
  obtain ⟨found, hfound, htimeFound, rfl⟩ := valid?_eq_some_iff.1 hq
  obtain ⟨place, -, hplace, -, -⟩ := FileTree.modified?_eq_some_iff.1 htime
  obtain ⟨place', -, hplace', -, -⟩ := FileTree.modified?_eq_some_iff.1 htimeFound
  obtain rfl : place = place' := FileTree.place_eq_of_same (Path.same_iff.1 hsame) hplace hplace'
  rw [keyOf_of_resolve hplace] at hstored
  rw [keyOf_of_resolve hplace', hstored] at hfound
  rw [Option.some.inj hfound]

def hitFor (hits : List (Path × CacheEntry)) (path : Path) : Option CacheEntry :=
  (hits.find? fun hit => hit.1.same path).map Prod.snd

theorem hitFor_cons (first : Path × CacheEntry) (rest : List (Path × CacheEntry)) (path : Path) :
    hitFor (first :: rest) path =
      if first.1.same path = true then some first.2 else hitFor rest path := by
  unfold hitFor
  rw [List.find?_cons]
  cases first.1.same path <;> rfl

def HitsDiffer (hits : List (Path × CacheEntry)) : Prop :=
  hits.Pairwise fun a b => a.1.same b.1 ≠ true

theorem HitsDiffer.addHit (h : HitsDiffer hits) (path : Path) (entry : CacheEntry) :
    HitsDiffer (addHit path entry hits) := by
  induction hits with
  | nil => exact List.pairwise_singleton _ _
  | cons first rest ih =>
    obtain ⟨hfirst, hrest⟩ := List.pairwise_cons.1 h
    unfold DefinitionCache.addHit
    split
    · exact List.pairwise_cons.2 ⟨hfirst, hrest⟩
    · next hother =>
      refine List.pairwise_cons.2 ⟨fun hit hmem => ?_, ih hrest⟩
      rcases mem_addHit hmem with hmem | ⟨hsame, -⟩
      · exact hfirst hit hmem
      · exact fun hagree => hother (Path.same_trans hagree hsame)

theorem hitsDiffer_lookupFrom {cache : DefinitionCache} {paths : List Path} (h : HitsDiffer hits) :
    HitsDiffer (cache.lookupFrom paths hits w).1 := by
  refine lookupFrom_induction (fun hits _ => HitsDiffer hits) (fun path _ hits w hdiffer => ?_) h
  cases ((cache.lookup path).outcome w).1 with
  | none => exact hdiffer
  | some entry => exact hdiffer.addHit path entry

theorem HitsDiffer.hitFor_eq_some_iff (h : HitsDiffer hits) :
    hitFor hits path = some entry ↔ ∃ hit ∈ hits, hit.1.same path = true ∧ hit.2 = entry := by
  induction hits with
  | nil => simp [hitFor]
  | cons first rest ih =>
    obtain ⟨hfirst, hrest⟩ := List.pairwise_cons.1 h
    rw [hitFor_cons]
    simp only [List.mem_cons, or_and_right, exists_or, exists_eq_left]
    by_cases hsame : first.1.same path = true
    · have hnone : ¬∃ hit ∈ rest, hit.1.same path = true ∧ hit.2 = entry :=
        fun ⟨hit, hmem, hhit, _⟩ =>
          hfirst hit hmem (Path.same_trans hsame (Path.same_symm hhit))
      simp [hsame, hnone]
    · simp [hsame, ih hrest]

theorem hitFor_lookupAll_eq_some_iff {paths : List Path}
    (hone : OneTimePerKey suffix w.files paths) (path : Path) (entry : CacheEntry) :
    hitFor (((file suffix).lookupAll paths).outcome w).1 path = some entry ↔
      ∃ q ∈ paths, q.same path = true ∧ valid? suffix w q = some entry := by
  have hhits := (lookupAll_shrinks_and_hits suffix paths w).2
  rw [outcome_lookupAll] at hhits ⊢
  have hdiffer : HitsDiffer ((file suffix).lookupFrom paths [] w).1 :=
    hitsDiffer_lookupFrom List.Pairwise.nil
  rw [hdiffer.hitFor_eq_some_iff]
  constructor
  · rintro ⟨hit, hmem, hsame, rfl⟩
    obtain ⟨q, hq, hspelled, hvalid⟩ := hhits hit hmem
    exact ⟨q, hq, Path.same_trans (Path.same_symm hspelled) hsame, hvalid⟩
  · rintro ⟨q, hq, hsame, hvalid⟩
    have hasked : q ∈ paths ∨ ∃ hit ∈ ([] : List (Path × CacheEntry)), hit.1.same q = true :=
      .inl hq
    obtain ⟨hit, hmem, hspelled⟩ := exists_hit_of_valid
      (fun other hother hkey => hone other hother q hq hkey) hvalid hasked
    obtain ⟨listed, -, hlisted, hvalidHit⟩ := hhits hit hmem
    have hagree : listed.same q = true := Path.same_trans (Path.same_symm hlisted) hspelled
    exact ⟨hit, hmem, Path.same_trans hspelled hsame, entry_eq_of_same hagree hvalidHit hvalid⟩

/-- What is kept with the time that one path sees is lost if a path with the same key, but another
time, is looked up before. -/
theorem hitFor_eq_none_of_other_time {rest : List Path} {modified : Nat}
    (hkey : keyOf suffix files p = keyOf suffix files q)
    (hother : files.modified? q ≠ some modified) :
    let store := KeyedMap.empty.insert (keyOf suffix files p) ⟨modified, entry⟩
    hitFor (((file suffix).lookupAll (q :: rest)).outcome ⟨files, store⟩).1 path = none := by
  intro store
  let start : Workspace := ⟨files, store⟩
  have hmiss : valid? suffix start q = none := by
    rw [Option.eq_none_iff_forall_ne_some]
    intro found hfound
    obtain ⟨stored, hget, htime, -⟩ := valid?_eq_some_iff.1 hfound
    rw [← hkey, KeyedMap.get?_insert, if_pos rfl] at hget
    cases hget
    exact hother htime
  have hempty : ∀ key, (dropped suffix start q).store.get? key = none := by
    intro key
    change (store.erase (keyOf suffix files q)).get? key = none
    rw [KeyedMap.get?_erase, KeyedMap.get?_insert, hkey]
    split <;> rfl
  have hhits : ∀ hit, hit ∉ ((file suffix).lookupFrom rest [] (dropped suffix start q)).1 := by
    rw [← outcome_lookupAll]
    intro hit hmem
    obtain ⟨found, -, -, hvalid⟩ := (lookupAll_shrinks_and_hits suffix rest _).2 hit hmem
    obtain ⟨stored, hget, -⟩ := valid?_eq_some_iff.1 hvalid
    rw [hempty] at hget
    cases hget
  have hbatch : (((file suffix).lookupAll (q :: rest)).outcome start).1 =
      ((file suffix).lookupFrom rest [] (dropped suffix start q)).1 := by
    rw [outcome_lookupAll, lookupFrom, outcome_lookup_of_invalid hmiss]
    rfl
  rw [hbatch, List.eq_nil_iff_forall_not_mem.2 hhits]
  rfl

theorem answer_of_only_entry {modified : Nat} (htime : files.modified? p = some modified) :
    (((file suffix).lookup p).outcome ⟨files, KeyedMap.empty.insert (keyOf suffix files p)
      ⟨modified, entry⟩⟩).1 = some entry := by
  rw [answer_lookup, valid?_eq_some_iff]
  exact ⟨⟨modified, entry⟩, by rw [KeyedMap.get?_insert, if_pos rfl], htime, rfl⟩

variable {store : CacheStore} {paths others : List Path}

theorem files_after_lookupAll (suffix : String) (paths : List Path) (files : FileTree)
    (store : CacheStore) :
    (((file suffix).lookupAll paths).outcome ⟨files, store⟩).2.files = files :=
  (lookupAll_shrinks_and_hits suffix paths ⟨files, store⟩).1.1

theorem get?_after_lookupAll_eq_some_iff (hothers : ∀ path, path ∈ others ↔ path ∈ paths)
    {key : String} {stored : StoredEntry} :
    (((file suffix).lookupAll others).outcome ⟨files, store⟩).2.store.get? key = some stored ↔
      store.get? key = some stored ∧
        ¬∃ q ∈ paths, keyOf suffix files q = key ∧ files.modified? q ≠ some stored.modified := by
  rw [outcome_lookupAll, get?_lookupFrom_eq_some_iff]
  simp only [hothers, not_exists, not_and, ne_eq, Decidable.not_not]

theorem after_lookupAll_congr (hothers : ∀ path, path ∈ others ↔ path ∈ paths) :
    (((file suffix).lookupAll others).outcome ⟨files, store⟩).2 =
      (((file suffix).lookupAll paths).outcome ⟨files, store⟩).2 := by
  apply Workspace.ext
  · rw [files_after_lookupAll, files_after_lookupAll]
  · apply KeyedMap.ext_get?
    intro key
    apply Option.ext
    intro stored
    rw [get?_after_lookupAll_eq_some_iff hothers, get?_after_lookupAll_eq_some_iff fun _ => Iff.rfl]

/-- Looking up several paths takes away the entries under a listed path's key that have another time
than its file, in whatever order the paths are listed, and however often. It hits a path exactly if a
listed spelling of it is a hit when looked up alone, whatever the store holds and in every order, if
and only if listed paths with one key see one time. -/
theorem lookupAll_as_single_lookups (suffix : String) (files : FileTree) (paths : List Path) :
    (∀ store others, (∀ path, path ∈ others ↔ path ∈ paths) →
      let batch := ((file suffix).lookupAll others).outcome ⟨files, store⟩
      HitsDiffer batch.1 ∧ batch.2.files = files ∧
        (∀ key stored, batch.2.store.get? key = some stored ↔
          store.get? key = some stored ∧
            ¬∃ q ∈ paths, keyOf suffix files q = key ∧ files.modified? q ≠ some stored.modified) ∧
        batch.2 = (((file suffix).lookupAll paths).outcome ⟨files, store⟩).2) ∧
    ((∀ store others, (∀ path, path ∈ others ↔ path ∈ paths) → ∀ path entry,
      hitFor (((file suffix).lookupAll others).outcome ⟨files, store⟩).1 path = some entry ↔
        ∃ q ∈ paths, q.same path = true ∧
          (((file suffix).lookup q).outcome ⟨files, store⟩).1 = some entry) ↔
      OneTimePerKey suffix files paths) := by
  refine ⟨fun store others hothers => ⟨?_, files_after_lookupAll suffix others files store,
    fun _ _ => get?_after_lookupAll_eq_some_iff hothers, after_lookupAll_congr hothers⟩, ?_, ?_⟩
  · rw [outcome_lookupAll]
    exact hitsDiffer_lookupFrom List.Pairwise.nil
  · intro h
    -- a path that sees a time has the entry of that time alone, and must have it after the other
    have hseen : ∀ p ∈ paths, ∀ q ∈ paths, keyOf suffix files p = keyOf suffix files q →
        ∀ modified, files.modified? p = some modified → files.modified? q = some modified := by
      intro p hp q hq hkey modified htime
      refine Decidable.byContradiction fun hother => ?_
      have hmembers : ∀ path, path ∈ q :: paths ↔ path ∈ paths := by
        intro path
        simp only [List.mem_cons, or_iff_right_iff_imp]
        rintro rfl
        exact hq
      have hhit := (h _ (q :: paths) hmembers p .empty).2
        ⟨p, hp, Path.same_refl p, answer_of_only_entry htime⟩
      rw [hitFor_eq_none_of_other_time hkey hother] at hhit
      cases hhit
    intro p hp q hq hkey
    apply Option.ext
    intro modified
    exact ⟨hseen p hp q hq hkey modified, hseen q hq p hp hkey.symm modified⟩
  · intro hone store others hothers path entry
    have honeOthers : OneTimePerKey suffix files others := fun p hp q hq hkey =>
      hone p ((hothers p).1 hp) q ((hothers q).1 hq) hkey
    rw [hitFor_lookupAll_eq_some_iff (w := ⟨files, store⟩) honeOthers]
    simp only [hothers, answer_lookup]

/-- A valid entry for a file, and one for a path that leads nowhere. -/
def sampleWorkspace : Workspace where
  files := .single "page.yml" .empty 5
  store := (KeyedMap.empty.insert "trellis_definitions:plugins:/page.yml" ⟨5, .empty⟩).insert
    "trellis_definitions:plugins:/gone.yml" ⟨5, .empty⟩

def samplePaths : List Path := [⟨"//page.yml"⟩, ⟨"/gone.yml"⟩, ⟨"/./page.yml"⟩, ⟨"/gone.yml"⟩]

/-- One entry is a hit and the other is taken away, from whichever end the paths are looked up. -/
theorem samplePaths_from_either_end :
    OneTimePerKey "plugins" sampleWorkspace.files samplePaths ∧
      let again := ((file "plugins").lookupAll samplePaths.reverse).outcome sampleWorkspace
      hitFor again.1 ⟨"/page.yml"⟩ = some .empty ∧
        again.2.store.get? "trellis_definitions:plugins:/gone.yml" = none := by
  have hone : OneTimePerKey "plugins" sampleWorkspace.files samplePaths := by
    unfold OneTimePerKey
    decide +kernel
  have hreverse : ∀ path, path ∈ samplePaths.reverse ↔ path ∈ samplePaths :=
    fun _ => List.mem_reverse
  obtain ⟨hbackend, hhits⟩ :=
    lookupAll_as_single_lookups "plugins" sampleWorkspace.files samplePaths
  refine ⟨hone, ?_, ?_⟩
  · apply (hhits.2 hone sampleWorkspace.store samplePaths.reverse hreverse _ _).2
    refine ⟨⟨"//page.yml"⟩, by decide, by decide +kernel, ?_⟩
    rw [answer_lookup]
    with_unfolding_all rfl
  · obtain ⟨-, -, hstore, -⟩ := hbackend sampleWorkspace.store samplePaths.reverse hreverse
    refine Option.eq_none_iff_forall_ne_some.2 fun stored hstored => ?_
    refine ((hstore _ stored).1 hstored).2 ⟨⟨"/gone.yml"⟩, by decide, ?_, ?_⟩
    · with_unfolding_all rfl
    · have hlost : sampleWorkspace.files.modified? ⟨"/gone.yml"⟩ = none := by
        with_unfolding_all rfl
      rw [hlost]
      exact nofun

/-- Of two files that are shown alike, but have different times, the entry of one is found or not as
it is looked up first or last. -/
theorem twins_not_from_either_end :
    let files := twinFiles .empty .empty 5 6
    let first := FileTree.pathOf (twin 0xFE)
    let second := FileTree.pathOf (twin 0xFF)
    let start : Workspace :=
      { files, store := KeyedMap.empty.insert (keyOf "plugins" files first) ⟨5, .empty⟩ }
    (((file "plugins").lookup first).outcome start).1.isSome = true ∧
      (hitFor (((file "plugins").lookupAll [first, second]).outcome start).1 first).isSome = true ∧
      (hitFor (((file "plugins").lookupAll [second, first]).outcome start).1 first).isSome = false := by
  decide +kernel

end PluginHost.DefinitionCache
