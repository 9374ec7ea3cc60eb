import PluginHost.Settings

/-!
Which paths a directory set lists for which providers, and which sets are made of their own paths.
-/
namespace PluginHost

namespace DirectorySet

variable {set : DirectorySet} {listed : String × Path}

theorem mem_positions_add {provider : String} {path : Path} :
    listed ∈ (set.add provider path).positions ↔
      listed ∈ set.positions ∨ listed = (provider, path) := by
  obtain ⟨entries⟩ := set
  unfold add positions
  dsimp only
  induction entries with
  | nil => simp [addTo]
  | cons e rest ih =>
    obtain ⟨name, paths⟩ := e
    unfold addTo
    split
    · next heq =>
      subst heq
      simp only [List.flatMap_cons, List.map_append, List.map_cons, List.map_nil, List.mem_append,
        List.mem_singleton]
      exact or_right_comm
    · rw [List.flatMap_cons, List.mem_append, ih, List.flatMap_cons, List.mem_append, or_assoc]

theorem mem_positions_ofList {pairs : List (String × Path)} :
    listed ∈ (ofList pairs).positions ↔ listed ∈ pairs := by
  have hfold : ∀ (pairs : List (String × Path)) (set : DirectorySet),
      listed ∈ (pairs.foldl (fun set p => set.add p.1 p.2) set).positions ↔
        listed ∈ set.positions ∨ listed ∈ pairs := by
    intro pairs
    induction pairs with
    | nil => simp
    | cons first rest ih =>
      intro set
      rw [List.foldl_cons, ih, mem_positions_add, List.mem_cons, or_assoc]
  have hempty : listed ∉ ({} : DirectorySet).positions := List.not_mem_nil
  exact (hfold pairs {}).trans (or_iff_right hempty)

theorem addTo_of_not_mem {provider : String} {entries : List (String × List Path)}
    (h : provider ∉ entries.map Prod.fst) (path : Path) :
    addTo provider path entries = entries ++ [(provider, [path])] := by
  induction entries with
  | nil => rfl
  | cons e rest ih =>
    simp only [List.map_cons, List.mem_cons, not_or] at h
    simp [addTo, Ne.symm h.1, ih h.2]

theorem addTo_concat {provider : String} {entries : List (String × List Path)}
    (h : provider ∉ entries.map Prod.fst) (paths : List Path) (path : Path) :
    addTo provider path (entries ++ [(provider, paths)]) =
      entries ++ [(provider, paths ++ [path])] := by
  induction entries with
  | nil => simp [addTo]
  | cons e rest ih =>
    simp only [List.map_cons, List.mem_cons, not_or] at h
    simp [addTo, Ne.symm h.1, ih h.2]

def addAll (set : DirectorySet) (pairs : List (String × Path)) : DirectorySet :=
  pairs.foldl (fun set p => set.add p.1 p.2) set

theorem addAll_append (set : DirectorySet) (pairs later : List (String × Path)) :
    set.addAll (pairs ++ later) = (set.addAll pairs).addAll later :=
  List.foldl_append

theorem addAll_paths {provider : String} {entries : List (String × List Path)}
    (h : provider ∉ entries.map Prod.fst) {paths : List Path} (hpaths : paths ≠ []) :
    addAll ⟨entries⟩ (paths.map fun path => (provider, path)) = ⟨entries ++ [(provider, paths)]⟩ := by
  have hlater : ∀ later earlier : List Path,
      addAll ⟨entries ++ [(provider, earlier)]⟩ (later.map fun path => (provider, path)) =
        ⟨entries ++ [(provider, earlier ++ later)]⟩ := by
    intro later
    induction later with
    | nil => simp [addAll]
    | cons path later ih =>
      intro earlier
      rw [List.append_cons earlier path later, ← ih (earlier ++ [path])]
      simp [addAll, add, addTo_concat h]
  cases paths with
  | nil => exact absurd rfl hpaths
  | cons path later =>
    rw [← List.singleton_append, ← hlater]
    simp [addAll, add, addTo_of_not_mem h]

theorem ofList_positions {set : DirectorySet} (hdistinct : set.providers.Nodup)
    (hpaths : ∀ e ∈ set.entries, e.2 ≠ []) : ofList set.positions = set := by
  have hadd : ∀ rest done : List (String × List Path), ((done ++ rest).map Prod.fst).Nodup →
      (∀ e ∈ rest, e.2 ≠ []) → addAll ⟨done⟩ (positions ⟨rest⟩) = ⟨done ++ rest⟩ := by
    intro rest
    induction rest with
    | nil => simp [addAll, positions]
    | cons e rest ih =>
      intro done hdone hrest
      have hnew : e.1 ∉ done.map Prod.fst := by
        rw [List.map_append, List.nodup_append] at hdone
        exact fun hmem => hdone.2.2 _ hmem _ (by simp) rfl
      have hcons : positions ⟨e :: rest⟩ = e.2.map (fun path => (e.1, path)) ++ positions ⟨rest⟩ := rfl
      rw [List.append_cons] at hdone ⊢
      rw [hcons, addAll_append, addAll_paths hnew (hrest e List.mem_cons_self)]
      exact ih _ hdone fun e he => hrest e (List.mem_cons_of_mem _ he)
  exact hadd set.entries [] hdistinct hpaths

end DirectorySet

theorem DiscoverySettings.entries_directorySet {d : DiscoverySettings}
    (hdistinct : (d.directories.map DirectorySettings.provider).Nodup)
    (hpaths : ∀ e ∈ d.directories, e.paths ≠ []) :
    d.directorySet.entries = d.directories.map fun e => (e.provider, e.paths) := by
  have hset : d.directorySet = .ofList
      (⟨d.directories.map fun e => (e.provider, e.paths)⟩ : DirectorySet).positions := by
    simp [directorySet, DirectorySet.positions, List.flatMap_map]
  rw [hset, DirectorySet.ofList_positions]
  · simpa [DirectorySet.providers, Function.comp_def] using hdistinct
  · simpa using hpaths

theorem DiscoverySettings.mem_positions_iff {d : DiscoverySettings} {listed : String × Path} :
    listed ∈ d.directorySet.positions ↔
      ∃ entry ∈ d.directories, entry.provider = listed.1 ∧ listed.2 ∈ entry.paths := by
  unfold directorySet
  rw [DirectorySet.mem_positions_ofList]
  simp only [List.mem_flatMap, List.mem_map]
  constructor
  · rintro ⟨entry, hentry, path, hpath, rfl⟩
    exact ⟨entry, hentry, rfl, hpath⟩
  · rintro ⟨entry, hentry, hprovider, hpath⟩
    exact ⟨entry, hentry, listed.2, hpath, by rw [hprovider]⟩

end PluginHost
