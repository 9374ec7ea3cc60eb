import PluginHost.Keyed.Lemmas
import PluginHost.Proofs.Action
import PluginHost.Proofs.Cache.Key
import PluginHost.Proofs.Scan

/-!
What a cache over the store answers and leaves behind. A lookup gives an entry exactly when the entry
has the file's time; else nothing stays under the key. Looking up several paths is a fold of that.
-/
namespace PluginHost.DefinitionCache

variable {suffix : String} {path : Path} {w : Workspace}

def valid? (suffix : String) (w : Workspace) (path : Path) : Option CacheEntry :=
  ((w.store.get? (keyOf suffix w.files path)).filter fun stored =>
    w.files.modified? path = some stored.modified).map StoredEntry.entry

def dropped (suffix : String) (w : Workspace) (path : Path) : Workspace :=
  { w with store := w.store.erase (keyOf suffix w.files path) }

theorem valid?_eq_some_iff {entry : CacheEntry} :
    valid? suffix w path = some entry ↔
      ∃ stored, w.store.get? (keyOf suffix w.files path) = some stored ∧
        w.files.modified? path = some stored.modified ∧ stored.entry = entry := by
  unfold valid?
  simp only [Option.map_eq_some_iff, Option.filter_eq_some_iff, decide_eq_true_eq, and_assoc]

theorem dropped_of_none (h : w.store.get? (keyOf suffix w.files path) = none) :
    dropped suffix w path = w := by
  have hstore : w.store.erase (keyOf suffix w.files path) = w.store := by
    apply KeyedMap.ext_get?
    intro k
    rw [KeyedMap.get?_erase]
    split
    · next hk => rw [← hk, h]
    · rfl
  unfold dropped
  rw [hstore]

theorem outcome_lookup (suffix : String) (path : Path) (w : Workspace) :
    ((file suffix).lookup path).outcome w =
      match valid? suffix w path with
      | some entry => (some entry, w)
      | none => (none, dropped suffix w path) := by
  change (lookupStored suffix path).outcome w = _
  unfold lookupStored
  rw [Step.outcome_bind, Step.outcome_get]
  dsimp only
  cases hget : w.store.get? (keyOf suffix w.files path) with
  | none =>
    have hvalid : valid? suffix w path = none := by simp [valid?, hget]
    rw [hvalid, dropped_of_none hget]
    rfl
  | some stored =>
    by_cases htime : w.files.modified? path = some stored.modified
    · rw [valid?_eq_some_iff.2 ⟨stored, hget, htime, rfl⟩]
      simp only [htime, if_true]
      rfl
    · have hvalid : valid? suffix w path = none := by simp [valid?, hget, htime]
      rw [hvalid]
      simp only [htime, if_false]
      rfl

theorem outcome_lookup_of_valid {entry : CacheEntry} (h : valid? suffix w path = some entry) :
    ((file suffix).lookup path).outcome w = (some entry, w) := by
  rw [outcome_lookup, h]

theorem outcome_lookup_of_invalid (h : valid? suffix w path = none) :
    ((file suffix).lookup path).outcome w = (none, dropped suffix w path) := by
  rw [outcome_lookup, h]

theorem answer_lookup (suffix : String) (path : Path) (w : Workspace) :
    (((file suffix).lookup path).outcome w).1 = valid? suffix w path := by
  rw [outcome_lookup]
  cases valid? suffix w path <;> rfl

@[simp] theorem files_after_lookup (suffix : String) (path : Path) (w : Workspace) :
    (((file suffix).lookup path).outcome w).2.files = w.files := by
  rw [outcome_lookup]
  cases valid? suffix w path <;> rfl

theorem get?_after_lookup_eq_some_iff {key : String} {stored : StoredEntry} :
    (((file suffix).lookup path).outcome w).2.store.get? key = some stored ↔
      w.store.get? key = some stored ∧
        (keyOf suffix w.files path = key → w.files.modified? path = some stored.modified) := by
  cases hvalid : valid? suffix w path with
  | some entry =>
    rw [outcome_lookup_of_valid hvalid]
    obtain ⟨valid, hget, htime, -⟩ := valid?_eq_some_iff.1 hvalid
    refine ⟨fun h => ⟨h, fun hkey => ?_⟩, And.left⟩
    subst hkey
    rw [hget] at h
    exact Option.some.inj h ▸ htime
  | none =>
    rw [outcome_lookup_of_invalid hvalid]
    have hother : ∀ stored, w.store.get? (keyOf suffix w.files path) = some stored →
        w.files.modified? path ≠ some stored.modified := by
      intro stored hget htime
      rw [valid?_eq_some_iff.2 ⟨stored, hget, htime, rfl⟩] at hvalid
      cases hvalid
    unfold dropped
    rw [KeyedMap.get?_erase]
    split
    · next hkey =>
      subst hkey
      simpa using hother stored
    · next hkey => simp [hkey]

@[simp] theorem outcome_forget (suffix : String) (path : Path) (w : Workspace) :
    ((file suffix).forget path).outcome w = ((), dropped suffix w path) := rfl

@[simp] theorem outcome_keep (suffix : String) (path : Path) (modified : Nat) (entry : CacheEntry)
    (w : Workspace) :
    ((file suffix).keep path modified entry).outcome w =
      ((), { w with store := w.store.insert (keyOf suffix w.files path) { modified, entry } }) := rfl

/-! Looking up several paths, as a function of the hits so far and the workspace. -/

def collect (path : Path) (hits : List (Path × CacheEntry)) :
    Option CacheEntry → List (Path × CacheEntry)
  | some entry => addHit path entry hits
  | none => hits

def lookupFrom (cache : DefinitionCache) :
    List Path → List (Path × CacheEntry) → Workspace → List (Path × CacheEntry) × Workspace
  | [], hits, w => (hits, w)
  | path :: rest, hits, w =>
    let answer := (cache.lookup path).outcome w
    cache.lookupFrom rest (collect path hits answer.1) answer.2

theorem outcome_lookupAll (cache : DefinitionCache) (paths : List Path) (w : Workspace) :
    (cache.lookupAll paths).outcome w = cache.lookupFrom paths [] w := by
  unfold lookupAll
  generalize ([] : List (Path × CacheEntry)) = hits
  induction paths generalizing hits w with
  | nil => rfl
  | cons path rest ih =>
    rw [List.foldlM_cons, Step.outcome_bind, Step.outcome_bind]
    unfold lookupFrom
    dsimp only
    cases ((cache.lookup path).outcome w).1 with
    | none => exact ih _ hits
    | some entry => exact ih _ (addHit path entry hits)

theorem lookupFrom_induction {cache : DefinitionCache} {paths : List Path}
    (motive : List (Path × CacheEntry) → Workspace → Prop)
    (step : ∀ path ∈ paths, ∀ hits w, motive hits w →
      motive (collect path hits ((cache.lookup path).outcome w).1) ((cache.lookup path).outcome w).2)
    {hits : List (Path × CacheEntry)} {w : Workspace} (start : motive hits w) :
    motive (cache.lookupFrom paths hits w).1 (cache.lookupFrom paths hits w).2 := by
  induction paths generalizing hits w with
  | nil => exact start
  | cons path rest ih =>
    unfold lookupFrom
    apply ih fun p hp => step p (List.mem_cons_of_mem _ hp)
    exact step path List.mem_cons_self hits w start

theorem get?_lookupFrom_eq_some_iff {paths : List Path} {hits : List (Path × CacheEntry)}
    {key : String} {stored : StoredEntry} :
    ((file suffix).lookupFrom paths hits w).2.store.get? key = some stored ↔
      w.store.get? key = some stored ∧ ∀ path ∈ paths, keyOf suffix w.files path = key →
        w.files.modified? path = some stored.modified := by
  induction paths generalizing hits w with
  | nil => simp [lookupFrom]
  | cons path rest ih =>
    unfold lookupFrom
    dsimp only
    rw [ih, get?_after_lookup_eq_some_iff, files_after_lookup, List.forall_mem_cons, and_assoc]

theorem mem_addHit {path : Path} {entry : CacheEntry} {hit : Path × CacheEntry}
    {hits : List (Path × CacheEntry)} (h : hit ∈ addHit path entry hits) :
    hit ∈ hits ∨ (hit.1.same path ∧ hit.2 = entry) := by
  induction hits with
  | nil =>
    cases List.mem_singleton.1 h
    exact .inr ⟨by simp [Path.same], rfl⟩
  | cons other rest ih =>
    unfold addHit at h
    split at h
    · next hsame =>
      rcases List.mem_cons.1 h with rfl | h
      · exact .inr ⟨hsame, rfl⟩
      · exact .inl (List.mem_cons_of_mem _ h)
    · rcases List.mem_cons.1 h with rfl | h
      · exact .inl List.mem_cons_self
      · exact (ih h).imp_left (List.mem_cons_of_mem _)

def Shrinks (before after : Workspace) : Prop :=
  after.files = before.files ∧
    ∀ key stored, after.store.get? key = some stored → before.store.get? key = some stored

theorem Shrinks.refl (w : Workspace) : Shrinks w w := ⟨rfl, fun _ _ h => h⟩

theorem Shrinks.dropped {before after : Workspace} (h : Shrinks before after) (suffix : String)
    (path : Path) : Shrinks before (dropped suffix after path) := by
  refine ⟨h.1, fun key stored hget => ?_⟩
  change (after.store.erase _).get? key = some stored at hget
  rw [KeyedMap.get?_erase] at hget
  split at hget
  · cases hget
  · exact h.2 key stored hget

theorem Shrinks.valid {before after : Workspace} (h : Shrinks before after) {entry : CacheEntry}
    (hvalid : valid? suffix after path = some entry) : valid? suffix before path = some entry := by
  obtain ⟨stored, hget, htime, hentry⟩ := valid?_eq_some_iff.1 hvalid
  rw [h.1] at hget htime
  exact valid?_eq_some_iff.2 ⟨stored, h.2 _ _ hget, htime, hentry⟩

theorem lookupAll_shrinks_and_hits (suffix : String) (paths : List Path) (w : Workspace) :
    Shrinks w (((file suffix).lookupAll paths).outcome w).2 ∧
      ∀ hit ∈ (((file suffix).lookupAll paths).outcome w).1,
        ∃ path ∈ paths, hit.1.same path = true ∧ valid? suffix w path = some hit.2 := by
  rw [outcome_lookupAll]
  apply lookupFrom_induction fun hits t => Shrinks w t ∧
    ∀ hit ∈ hits, ∃ path ∈ paths, hit.1.same path = true ∧ valid? suffix w path = some hit.2
  · rintro path hpath hits t ⟨ht, hhits⟩
    cases hvalid : valid? suffix t path with
    | none =>
      rw [outcome_lookup_of_invalid hvalid]
      exact ⟨ht.dropped suffix path, hhits⟩
    | some entry =>
      rw [outcome_lookup_of_valid hvalid]
      refine ⟨ht, fun hit hmem => ?_⟩
      rcases mem_addHit hmem with hmem | ⟨hsame, hentry⟩
      · exact hhits hit hmem
      · exact ⟨path, hpath, hsame, hentry ▸ ht.valid hvalid⟩
  · exact ⟨.refl w, fun hit hmem => absurd hmem List.not_mem_nil⟩

theorem valid?_after_lookup {q : Path} {entry : CacheEntry}
    (hone : keyOf suffix w.files q = keyOf suffix w.files path →
      w.files.modified? q = w.files.modified? path)
    (hvalid : valid? suffix w path = some entry) :
    valid? suffix (((file suffix).lookup q).outcome w).2 path = some entry := by
  obtain ⟨stored, hget, htime, hentry⟩ := valid?_eq_some_iff.1 hvalid
  rw [valid?_eq_some_iff, files_after_lookup]
  exact ⟨stored, get?_after_lookup_eq_some_iff.2 ⟨hget, fun hkey => (hone hkey).trans htime⟩, htime,
    hentry⟩

theorem exists_hit_addHit {p : Path} {entry : CacheEntry} {hits : List (Path × CacheEntry)} :
    (∃ hit ∈ addHit path entry hits, hit.1.same p = true) ↔
      path.same p = true ∨ ∃ hit ∈ hits, hit.1.same p = true := by
  induction hits with
  | nil => simp [addHit]
  | cons other rest ih =>
    unfold addHit
    split
    · next hsame =>
      have hcongr : other.1.same p = true ↔ path.same p = true := by
        rw [Path.same_iff, Path.same_iff, Path.same_iff.1 hsame]
      simp [hcongr]
    · simp only [List.mem_cons, exists_eq_or_imp, ih]
      exact or_left_comm

theorem exists_hit_of_valid {paths : List Path} {hits : List (Path × CacheEntry)} {entry : CacheEntry}
    (hone : ∀ q ∈ paths, keyOf suffix w.files q = keyOf suffix w.files path →
      w.files.modified? q = w.files.modified? path)
    (hvalid : valid? suffix w path = some entry)
    (h : path ∈ paths ∨ ∃ hit ∈ hits, hit.1.same path = true) :
    ∃ hit ∈ ((file suffix).lookupFrom paths hits w).1, hit.1.same path = true := by
  induction paths generalizing hits w with
  | nil => exact h.resolve_left List.not_mem_nil
  | cons q rest ih =>
    obtain ⟨honeNow, honeLater⟩ := List.forall_mem_cons.1 hone
    unfold lookupFrom
    apply ih (by simpa using honeLater) (valid?_after_lookup honeNow hvalid)
    rcases h with h | h
    · rcases List.mem_cons.1 h with rfl | h
      · rw [outcome_lookup_of_valid hvalid]
        exact .inr (exists_hit_addHit.2 (.inl (by simp [Path.same])))
      · exact .inl h
    · right
      cases (((file suffix).lookup q).outcome w).1 with
      | none => exact h
      | some entry => exact exists_hit_addHit.2 (.inr h)

end PluginHost.DefinitionCache
