import Mathlib.Data.List.Induction
import PluginHost.Proofs.DirectorySet

/-!
What a directory set makes of the paths that are added to it: they are grouped by provider. Providers
stand in the order in which they first occur, and each has its paths in the order of their addition,
so that one more addition comes in between the earlier positions and moves none of them.
-/
namespace PluginHost

namespace DirectorySet

def pathsAdded (pairs : List (String × Path)) (provider : String) : List Path :=
  (pairs.filter fun p => p.1 == provider).map Prod.snd

/-- The providers in the order in which they first occur, each with its paths. -/
def grouped (pairs : List (String × Path)) : List (String × List Path) :=
  (pairs.map Prod.fst).eraseDups.map fun provider => (provider, pathsAdded pairs provider)

/-- Add paths one after the other to a set that is changed in place. -/
def addEach (pairs : List (String × Path)) : StateM DirectorySet Unit :=
  pairs.forM fun p => modify fun set => set.add p.1 p.2

variable {pairs : List (String × Path)} {provider : String} {path : Path}

theorem run_addEach (pairs : List (String × Path)) (set : DirectorySet) :
    ((addEach pairs).run set).2 = set.addAll pairs := by
  induction pairs generalizing set with
  | nil => rfl
  | cons p rest ih => exact ih (set.add p.1 p.2)

theorem ofList_concat (pairs : List (String × Path)) (provider : String) (path : Path) :
    ofList (pairs ++ [(provider, path)]) = (ofList pairs).add provider path :=
  addAll_append {} pairs [(provider, path)]

/-! One more addition. -/

theorem eraseDups_concat_of_mem {names : List String} (h : provider ∈ names) :
    (names ++ [provider]).eraseDups = names.eraseDups := by
  rw [List.eraseDups_append]
  simp [List.removeAll, h]

theorem eraseDups_concat_of_not_mem {names : List String} (h : provider ∉ names) :
    (names ++ [provider]).eraseDups = names.eraseDups ++ [provider] := by
  rw [List.eraseDups_append]
  simp [List.removeAll, h, List.eraseDups_cons]

theorem nodup_eraseDups (names : List String) : names.eraseDups.Nodup := by
  induction names using List.reverseRecOn with
  | nil => exact List.nodup_nil
  | append_singleton names name ih =>
    by_cases h : name ∈ names
    · rw [eraseDups_concat_of_mem h]
      exact ih
    · rw [eraseDups_concat_of_not_mem h]
      refine List.nodup_append.2 ⟨ih, List.pairwise_singleton _ _, fun a ha b hb => ?_⟩
      rw [List.mem_singleton.1 hb]
      exact ne_of_mem_of_not_mem (List.mem_eraseDups.1 ha) h

theorem pathsAdded_concat_self (pairs : List (String × Path)) (provider : String) (path : Path) :
    pathsAdded (pairs ++ [(provider, path)]) provider = pathsAdded pairs provider ++ [path] := by
  simp [pathsAdded]

theorem pathsAdded_concat_of_ne {other : String} (h : provider ≠ other)
    (pairs : List (String × Path)) (path : Path) :
    pathsAdded (pairs ++ [(provider, path)]) other = pathsAdded pairs other := by
  simp [pathsAdded, h]

theorem pathsAdded_eq_nil_iff : pathsAdded pairs provider = [] ↔ provider ∉ pairs.map Prod.fst := by
  simp only [pathsAdded, List.map_eq_nil_iff, List.filter_eq_nil_iff, beq_iff_eq, List.mem_map,
    not_exists, not_and]

theorem addTo_map {names : List String} (hnodup : names.Nodup) (hmem : provider ∈ names)
    (paths : String → List Path) (path : Path) :
    addTo provider path (names.map fun name => (name, paths name)) =
      names.map fun name => (name, if provider = name then paths name ++ [path] else paths name) := by
  induction names with
  | nil => cases hmem
  | cons name rest ih =>
    obtain ⟨hname, hrest⟩ := List.nodup_cons.1 hnodup
    simp only [List.map_cons, addTo]
    by_cases heq : name = provider
    · subst heq
      rw [if_pos rfl, if_pos rfl]
      refine congrArg _ (List.map_congr_left fun other hother => ?_)
      rw [if_neg (ne_of_mem_of_not_mem hother hname).symm]
    · rw [if_neg heq, if_neg (Ne.symm heq)]
      exact congrArg _ (ih hrest ((List.mem_cons.1 hmem).resolve_left (Ne.symm heq)))

theorem grouped_concat (pairs : List (String × Path)) (provider : String) (path : Path) :
    grouped (pairs ++ [(provider, path)]) = addTo provider path (grouped pairs) := by
  unfold grouped
  rw [List.map_append, List.map_singleton]
  -- A provider that is there has its entry lengthened, a new one comes to the end.
  by_cases hmem : provider ∈ pairs.map Prod.fst
  · rw [eraseDups_concat_of_mem hmem,
      addTo_map (nodup_eraseDups _) (List.mem_eraseDups.2 hmem) (pathsAdded pairs)]
    refine List.map_congr_left fun other _ => ?_
    split
    · next heq => rw [← heq, pathsAdded_concat_self]
    · next hne => rw [pathsAdded_concat_of_ne hne]
  · have hnew : provider ∉ ((pairs.map Prod.fst).eraseDups.map fun name =>
        (name, pathsAdded pairs name)).map Prod.fst := by
      simpa [Function.comp_def] using hmem
    rw [eraseDups_concat_of_not_mem hmem, addTo_of_not_mem hnew, List.map_append,
      List.map_singleton, pathsAdded_concat_self, pathsAdded_eq_nil_iff.2 hmem, List.nil_append]
    refine congrArg (· ++ _) (List.map_congr_left fun other hother => ?_)
    have hne : provider ≠ other := fun heq => hmem (heq ▸ List.mem_eraseDups.1 hother)
    rw [pathsAdded_concat_of_ne hne]

theorem entries_ofList (pairs : List (String × Path)) : (ofList pairs).entries = grouped pairs := by
  induction pairs using List.reverseRecOn with
  | nil => rfl
  | append_singleton pairs pair ih =>
    rw [ofList_concat, grouped_concat, ← ih]
    rfl

theorem nodup_providers_ofList (pairs : List (String × Path)) : (ofList pairs).providers.Nodup := by
  unfold providers
  rw [entries_ofList, grouped, List.map_map, show Prod.fst ∘ (fun provider =>
    (provider, pathsAdded pairs provider)) = id from rfl, List.map_id]
  exact nodup_eraseDups _

theorem exists_positions_add (set : DirectorySet) (provider : String) (path : Path) :
    ∃ before after, set.positions = before ++ after ∧
      (set.add provider path).positions = before ++ (provider, path) :: after := by
  obtain ⟨entries⟩ := set
  unfold add positions
  dsimp only
  induction entries with
  | nil => exact ⟨[], [], rfl, rfl⟩
  | cons e rest ih =>
    obtain ⟨name, paths⟩ := e
    unfold addTo
    split
    · next heq =>
      subst heq
      refine ⟨paths.map fun path => (name, path), rest.flatMap fun e => e.2.map fun p => (e.1, p),
        List.flatMap_cons, ?_⟩
      simp [List.flatMap_cons]
    · obtain ⟨before, after, hbefore, hafter⟩ := ih
      refine ⟨paths.map (fun path => (name, path)) ++ before, after, ?_, ?_⟩
      · rw [List.flatMap_cons, hbefore, List.append_assoc]
      · rw [List.flatMap_cons, hafter, List.append_assoc]

theorem positions_ofList_perm (pairs : List (String × Path)) :
    (ofList pairs).positions.Perm pairs := by
  induction pairs using List.reverseRecOn with
  | nil => exact List.Perm.refl _
  | append_singleton pairs pair ih =>
    obtain ⟨before, after, hbefore, hafter⟩ := exists_positions_add (ofList pairs) pair.1 pair.2
    have hall : (pair :: (before ++ after)).Perm (pair :: pairs) := (hbefore ▸ ih).cons pair
    rw [ofList_concat, hafter]
    exact List.perm_middle.trans (hall.trans (List.perm_append_singleton pair pairs).symm)

/-- However a set is built from some additions, it is their stable grouping: each provider once, in
the order of first occurrence, with its paths in the order of addition. Nothing is lost or doubled,
and a further addition comes in between the positions so far, whose order stays. -/
theorem additions_grouped_stably (pairs : List (String × Path)) :
    let set := ofList pairs
    (((addEach pairs).run {}).2 = set ∧ pairs.foldl (fun set p => set.add p.1 p.2) {} = set ∧
      ∀ d : DiscoverySettings,
        (d.directories.flatMap fun e => e.paths.map fun path => (e.provider, path)) = pairs →
          d.directorySet = set) ∧
    set.entries = (pairs.map Prod.fst).eraseDups.map
      (fun provider => (provider, (pairs.filter fun p => p.1 == provider).map Prod.snd)) ∧
    set.providers.Nodup ∧ (∀ e ∈ set.entries, e.2 ≠ []) ∧ set.positions.Perm pairs ∧
    ∀ pair, ∃ before after, set.positions = before ++ after ∧
      (ofList (pairs ++ [pair])).positions = before ++ pair :: after := by
  intro set
  refine ⟨⟨run_addEach pairs {}, rfl, ?_⟩, entries_ofList pairs, nodup_providers_ofList pairs,
    ?_, positions_ofList_perm pairs, fun pair => ?_⟩
  · rintro d rfl
    rfl
  · intro e he
    obtain ⟨provider, hprovider, rfl⟩ := List.mem_map.1 (entries_ofList pairs ▸ he)
    exact fun hnil => pathsAdded_eq_nil_iff.1 hnil (List.mem_eraseDups.1 hprovider)
  · rw [ofList_concat]
    exact exists_positions_add set pair.1 pair.2

/-- Settings that come back to a provider after another one, and that list one without paths. -/
def returningSettings : DiscoverySettings where
  directories :=
    [{ provider := "core", paths := [⟨"/core/a"⟩] }, { provider := "blog", paths := [⟨"/blog"⟩] },
      { provider := "news" }, { provider := "core", paths := [⟨"/core/b"⟩, ⟨"/core/a"⟩] }]

theorem returningSettings_grouped :
    let pairs := [("core", ⟨"/core/a"⟩), ("blog", ⟨"/blog"⟩), ("core", ⟨"/core/b"⟩),
      ("core", ⟨"/core/a"⟩)]
    (returningSettings.directories.flatMap fun e => e.paths.map fun path => (e.provider, path)) =
        pairs ∧
      returningSettings.directorySet = ofList pairs ∧
      (ofList pairs).entries =
        [("core", [⟨"/core/a"⟩, ⟨"/core/b"⟩, ⟨"/core/a"⟩]), ("blog", [⟨"/blog"⟩])] :=
  ⟨rfl, (additions_grouped_stably _).1.2.2 returningSettings rfl, rfl⟩

end DirectorySet

end PluginHost
