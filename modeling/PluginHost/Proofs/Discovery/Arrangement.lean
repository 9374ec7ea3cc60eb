import Mathlib.Data.List.Forall2
import PluginHost.Proofs.Discovery.Aggregation
import PluginHost.Proofs.FileTree
import PluginHost.Proofs.Scan.Sighting

/-!
When the order of the listed directories does not matter. Order decides between files whose paths
agree, and between definitions of one id. Where neither can happen, any arrangement of the same
directories gives the same definitions.
-/
namespace PluginHost

namespace DirectorySet

/-- The same providers in another order, and the paths of each of them in another order. -/
def Rearranged (set other : DirectorySet) : Prop :=
  ∃ entries, set.entries.Perm entries ∧
    List.Forall₂ (fun e f => e.1 = f.1 ∧ e.2.Perm f.2) entries other.entries

theorem Rearranged.perm_positions {set other : DirectorySet} (h : set.Rearranged other) :
    set.positions.Perm other.positions := by
  obtain ⟨entries, hproviders, hpaths⟩ := h
  refine (hproviders.flatMap_right _).trans ?_
  unfold positions
  clear hproviders
  generalize other.entries = others at hpaths ⊢
  induction hpaths with
  | nil => exact List.Perm.nil
  | @cons e f _ _ hpair _ ih =>
    obtain ⟨hprovider, hperm⟩ := hpair
    rw [List.flatMap_cons, List.flatMap_cons, hprovider]
    exact (hperm.map _).append ih

end DirectorySet

namespace Scanner

variable {s : Scanner} {files : FileTree} {directories other : DirectorySet}

def Reaches (s : Scanner) (files : FileTree) (dir path : Path) : Prop :=
  ∃ place ∈ s.placesIn files dir, path = dir.below place

/-- No path that one listed directory reaches agrees with a path that another one reaches. -/
def ReachApart (s : Scanner) (files : FileTree) (directories : DirectorySet) : Prop :=
  directories.positions.Pairwise fun l m =>
    ∀ p q, s.Reaches files l.2 p → s.Reaches files m.2 q → p.same q = false

theorem ReachApart.perm (h : s.ReachApart files directories)
    (hperm : directories.positions.Perm other.positions) : s.ReachApart files other := by
  refine (hperm.pairwise_iff fun {l m} hapart p q hp hq => ?_).1 h
  rw [Bool.eq_false_iff]
  intro hsame
  cases (hapart q p hq hp).symm.trans (Path.same_symm hsame)

theorem reaches_iff {dir path : Path} :
    s.Reaches files dir path ↔ ∃ place node, files.node? dir = some node ∧
      node.isDirectory = true ∧ node.HasFile s.suffix place ∧ path = dir.below place := by
  unfold Reaches
  simp only [mem_placesIn_iff]
  constructor
  · rintro ⟨place, ⟨node, hnode, hdir, hfile⟩, hpath⟩
    exact ⟨place, node, hnode, hdir, hfile, hpath⟩
  · rintro ⟨place, node, hnode, hdir, hfile, hpath⟩
    exact ⟨place, ⟨node, hnode, hdir, hfile⟩, hpath⟩

theorem Sights.reaches {t : Sighting} (h : s.Sights files directories t) :
    ∃ dir, directories.positions[t.position]? = some (t.file.provider, dir) ∧
      s.Reaches files dir t.file.path := by
  obtain ⟨dir, node, hlisted, hnode⟩ := h
  exact ⟨dir, hlisted, reaches_iff.2 ⟨t.place, node, hnode⟩⟩

theorem ReachApart.sightsLast (h : s.ReachApart files directories) {t : Sighting}
    (ht : s.Sights files directories t) : s.SightsLast files directories t := by
  refine ⟨ht, fun u hu hlt => ?_⟩
  obtain ⟨dir, hlisted, hreaches⟩ := ht.reaches
  obtain ⟨dir', hlisted', hreaches'⟩ := hu.reaches
  obtain ⟨ht', heq⟩ := List.getElem?_eq_some_iff.1 hlisted
  obtain ⟨hu', heq'⟩ := List.getElem?_eq_some_iff.1 hlisted'
  have hapart := List.pairwise_iff_getElem.1 h t.position u.position ht' hu' hlt
  rw [heq, heq'] at hapart
  rw [Bool.eq_false_iff]
  intro hsame
  cases (hapart _ _ hreaches hreaches').symm.trans (Path.same_symm hsame)

theorem ReachApart.mem_scan_iff (h : s.ReachApart files directories) {f : ScannedFile} :
    f ∈ (s.scan files directories).value ↔
      (∃ dir, (f.provider, dir) ∈ directories.positions ∧ s.Reaches files dir f.path) ∧
        ¬s.Excludes f.path := by
  rw [Scanner.mem_scan_iff]
  constructor
  · rintro ⟨t, ht, rfl, hexcludes⟩
    obtain ⟨dir, hlisted, hreaches⟩ := ht.1.reaches
    exact ⟨⟨dir, List.mem_of_getElem? hlisted, hreaches⟩, hexcludes⟩
  · rintro ⟨⟨dir, hlisted, hreaches⟩, hexcludes⟩
    obtain ⟨position, hposition⟩ := List.mem_iff_getElem?.1 hlisted
    obtain ⟨place, node, hnode⟩ := reaches_iff.1 hreaches
    have ht : s.Sights files directories ⟨position, place, f⟩ := ⟨dir, node, hposition, hnode⟩
    exact ⟨_, h.sightsLast ht, rfl, hexcludes⟩

theorem ReachApart.mem_scan_perm (h : s.ReachApart files directories)
    (hperm : directories.positions.Perm other.positions) {f : ScannedFile} :
    f ∈ (s.scan files directories).value ↔ f ∈ (s.scan files other).value := by
  simp only [h.mem_scan_iff, (h.perm hperm).mem_scan_iff, hperm.mem_iff]

end Scanner

namespace DirectoryDiscovery

variable {d : DirectoryDiscovery} {files : FileTree} {found again : ScanResult}

def IdsDiffer (d : DirectoryDiscovery) (files : FileTree) (found : ScanResult) : Prop :=
  ∀ f ∈ found, ∀ g ∈ found, ∀ x y, d.Holds files f (.definition x) →
    d.Holds files g (.definition y) → x.id = y.id → f = g

theorem IdsDiffer.exists_holdsLast_iff (h : d.IdsDiffer files found) {id : String}
    {definition : Definition} :
    (∃ f, d.HoldsLast files found id f definition) ↔
      ∃ f ∈ found, d.Holds files f (.definition definition) ∧ definition.id = id := by
  constructor
  · rintro ⟨f, before, after, rfl, hf, hid, -⟩
    exact ⟨f, List.mem_append_right before List.mem_cons_self, hf, hid⟩
  · rintro ⟨f, hmem, hf, hid⟩
    rcases holdsNone_or_exists_holdsLast d files found id with hnone | ⟨g, last, hlast⟩
    · exact absurd hid (hnone f hmem definition hf)
    · have ⟨before, after, hfound, hg, hidLast, _⟩ := hlast
      have hgmem : g ∈ found := by simp [hfound]
      cases h f hmem g hgmem definition last hf hg (hid.trans hidLast.symm)
      cases holds_unique hf hg
      exact ⟨f, hlast⟩

theorem IdsDiffer.of_mem (h : d.IdsDiffer files found) (hmem : ∀ f ∈ again, f ∈ found) :
    d.IdsDiffer files again :=
  fun f hf g hg => h f (hmem f hf) g (hmem g hg)

theorem IdsDiffer.gather_eq_ok (h : d.IdsDiffer files found) (hmem : ∀ f, f ∈ found ↔ f ∈ again)
    {all : DefinitionMap} (hall : d.gather files .empty found = .ok all) :
    d.gather files .empty again = .ok all := by
  have hholds := exists_gather_eq_ok_iff.1 ⟨all, hall⟩
  obtain ⟨result, hresult⟩ : ∃ result, d.gather files .empty again = .ok result :=
    exists_gather_eq_ok_iff.2 fun f hf => hholds f ((hmem f).2 hf)
  have hagain : d.IdsDiffer files again := h.of_mem fun f hf => (hmem f).2 hf
  have heq : result = all := by
    refine KeyedMap.ext_get? fun id => Option.ext fun definition => ?_
    rw [get?_gather_empty hresult, get?_gather_empty hall, hagain.exists_holdsLast_iff,
      h.exists_holdsLast_iff]
    simp only [hmem]
  rw [hresult, heq]

/-- The order of providers, and of the paths of one provider, matters for collisions only. Without a
cache, and with directories that reach apart and files that define different ids, any arrangement of
the directories either gives the same definitions or fails as well. -/
theorem definitions_of_rearranged (d : DirectoryDiscovery) (w : Workspace) {other : DirectorySet}
    (hrearranged : d.directories.Rearranged other)
    (hapart : d.scanner.ReachApart w.files d.directories)
    (hids : d.IdsDiffer w.files (d.scanned w.files)) :
    let result := d.uncached.definitions.result w
    let again := ({ d with directories := other } : DirectoryDiscovery).uncached.definitions.result w
    (∃ all, result = .ok all ∧ again = .ok all) ∨ ∃ e f, result = .error e ∧ again = .error f := by
  intro result again
  have hmem : ∀ f, f ∈ d.scanned w.files ↔ f ∈ (d.scanner.scan w.files other).value :=
    fun f => hapart.mem_scan_perm hrearranged.perm_positions
  have hresult : result = d.gather w.files .empty (d.scanned w.files) :=
    congrArg Prod.fst (outcome_definitions_uncached d w)
  have hagain : again = d.gather w.files .empty (d.scanner.scan w.files other).value :=
    congrArg Prod.fst (outcome_definitions_uncached { d with directories := other } w)
  rw [hresult, hagain]
  cases hfirst : d.gather w.files .empty (d.scanned w.files) with
  | ok all => exact .inl ⟨all, rfl, hids.gather_eq_ok hmem hfirst⟩
  | error e =>
    cases hsecond : d.gather w.files .empty (d.scanner.scan w.files other).value with
    | error f => exact .inr ⟨e, f, rfl, rfl⟩
    | ok all =>
      have hidsAgain := hids.of_mem fun f hf => (hmem f).2 hf
      cases hfirst.symm.trans (hidsAgain.gather_eq_ok (fun f => (hmem f).symm) hsecond)

/-- One provider with two directories, and one that comes after it. -/
def threeDirectories : DirectoryDiscovery where
  directories := { entries := [("core", [⟨"/base"⟩, ⟨"/more"⟩]), ("extra", [⟨"/extra"⟩])] }
  scanner := { suffix := ".yml" }
  parser := .ofFormat .yaml

def threeFiles : FileTree :=
  ((FileTree.single "notes.txt" .empty 1).write ⟨"/base/a.yml"⟩ "id: block\n".toUTF8 2
    |>.write ⟨"/more/b.yml"⟩ "id: field\n".toUTF8 3).write ⟨"/extra/c.yml"⟩ "id: view\n".toUTF8 4

/-- The later provider first, and the two directories of the other one exchanged. -/
def otherArrangement : DirectorySet where
  entries := [("extra", [⟨"/extra"⟩]), ("core", [⟨"/more"⟩, ⟨"/base"⟩])]

theorem rearranged_otherArrangement : threeDirectories.directories.Rearranged otherArrangement :=
  ⟨[("extra", [⟨"/extra"⟩]), ("core", [⟨"/base"⟩, ⟨"/more"⟩])], List.Perm.swap _ _ _,
    .cons ⟨rfl, List.Perm.refl _⟩ (.cons ⟨rfl, List.Perm.swap _ _ _⟩ .nil)⟩

theorem reaches_threeDirectories {path : Path} :
    (threeDirectories.scanner.Reaches threeFiles ⟨"/base"⟩ path → path = ⟨"/base/a.yml"⟩) ∧
      (threeDirectories.scanner.Reaches threeFiles ⟨"/more"⟩ path → path = ⟨"/more/b.yml"⟩) ∧
      (threeDirectories.scanner.Reaches threeFiles ⟨"/extra"⟩ path → path = ⟨"/extra/c.yml"⟩) := by
  have hbase : threeDirectories.scanner.placesIn threeFiles ⟨"/base"⟩ = [(["a.yml"] : Location)] := by
    decide +kernel
  have hmore : threeDirectories.scanner.placesIn threeFiles ⟨"/more"⟩ = [(["b.yml"] : Location)] := by
    decide +kernel
  have hextra : threeDirectories.scanner.placesIn threeFiles ⟨"/extra"⟩ = [(["c.yml"] : Location)] := by
    decide +kernel
  have hpaths : (⟨"/base"⟩ : Path).below ["a.yml"] = ⟨"/base/a.yml"⟩ ∧
      (⟨"/more"⟩ : Path).below ["b.yml"] = ⟨"/more/b.yml"⟩ ∧
      (⟨"/extra"⟩ : Path).below ["c.yml"] = ⟨"/extra/c.yml"⟩ := by
    decide +kernel
  simp [Scanner.Reaches, hbase, hmore, hextra, hpaths]

theorem reachApart_threeDirectories :
    threeDirectories.scanner.ReachApart threeFiles threeDirectories.directories := by
  refine .cons ?_ (.cons ?_ (.cons ?_ .nil))
  · rintro m hm p q hp hq
    cases reaches_threeDirectories.1 hp
    rcases List.mem_pair.1 hm with rfl | rfl
    · cases reaches_threeDirectories.2.1 hq
      decide +kernel
    · cases reaches_threeDirectories.2.2 hq
      decide +kernel
  · rintro m hm p q hp hq
    cases reaches_threeDirectories.2.1 hp
    cases List.mem_singleton.1 hm
    cases reaches_threeDirectories.2.2 hq
    decide +kernel
  · exact fun _ hm => absurd hm List.not_mem_nil

def heldId? (d : DirectoryDiscovery) (files : FileTree) (f : ScannedFile) : Option String :=
  match d.readEntry files f with
  | .ok (.definition definition) => some definition.id
  | _ => none

theorem idsDiffer_of_heldId? (h : ∀ f ∈ found, ∀ g ∈ found,
    (d.heldId? files f).isSome → d.heldId? files f = d.heldId? files g → f = g) :
    d.IdsDiffer files found := by
  intro f hf g hg x y hx hy hid
  have hfirst : d.heldId? files f = some x.id := by simp [heldId?, readEntry_of_holds hx]
  have hsecond : d.heldId? files g = some y.id := by simp [heldId?, readEntry_of_holds hy]
  exact h f hf g hg (by simp [hfirst]) (by rw [hfirst, hsecond, hid])

theorem idsDiffer_threeDirectories :
    threeDirectories.IdsDiffer threeFiles (threeDirectories.scanned threeFiles) :=
  idsDiffer_of_heldId? (by decide +kernel)

/-- Both arrangements find the three definitions. -/
theorem threeDirectories_rearranged :
    let result := threeDirectories.uncached.definitions.result { files := threeFiles }
    let again := ({ threeDirectories with directories := otherArrangement } :
      DirectoryDiscovery).uncached.definitions.result { files := threeFiles }
    threeDirectories.directories.Rearranged otherArrangement ∧
      threeDirectories.scanner.ReachApart threeFiles threeDirectories.directories ∧
      threeDirectories.IdsDiffer threeFiles (threeDirectories.scanned threeFiles) ∧
      result.toOption.map KeyedMap.keys = some ["block", "field", "view"] ∧
      ((∃ all, result = .ok all ∧ again = .ok all) ∨
        ∃ e f, result = .error e ∧ again = .error f) :=
  ⟨rearranged_otherArrangement, reachApart_threeDirectories, idsDiffer_threeDirectories,
    by decide +kernel,
    definitions_of_rearranged threeDirectories { files := threeFiles } rearranged_otherArrangement
      reachApart_threeDirectories idsDiffer_threeDirectories⟩

end DirectoryDiscovery

end PluginHost
