import PluginHost.FileTree.Change
import PluginHost.Proofs.Scan
import PluginHost.Proofs.Walk

/-!
The exact result of a scan. A file is sighted from every listed directory that it lies below; the
scan lists the last sighting of each path, unless the exclude pattern is found in the path as that
sighting spells it.
-/
namespace PluginHost

namespace FileTree

variable {files : FileTree} {path : Path} {node : FileNode}

theorem wellFormed_of_node? (h : files.node? path = some node) : node.WellFormed := by
  obtain ⟨place, -, hat⟩ := Option.bind_eq_some_iff.1 h
  exact FileNode.wellFormed_of_at? files.wellFormed hat

theorem raw_ne_empty_of_node? (h : files.node? path = some node) : path.raw ≠ "" := by
  obtain ⟨place, hplace, -⟩ := Option.bind_eq_some_iff.1 h
  rw [resolve_eq] at hplace
  split at hplace
  · cases hplace
  · next hne => exact hne

end FileTree

/-- A file as it is reached from one of the listed directories: that directory's position in the
list, and the names that lead from it down to the file. -/
@[ext]
structure Sighting where
  position : Nat
  place : Location
  file : ScannedFile

def Sighting.Before (t u : Sighting) : Prop :=
  t.position < u.position ∨ t.position = u.position ∧ t.place < u.place

theorem Sighting.not_before_self (t : Sighting) : ¬t.Before t := by
  rintro (h | ⟨-, h⟩)
  · exact Nat.lt_irrefl _ h
  · exact List.lt_irrefl _ h

theorem Sighting.Before.asymm {t u : Sighting} (h : t.Before u) : ¬u.Before t := by
  rcases h with h | ⟨heq, h⟩
  · rintro (h' | ⟨heq, -⟩) <;> omega
  · rintro (h' | ⟨-, h'⟩)
    · omega
    · exact List.lt_asymm h h'

namespace Scanner

variable (s : Scanner) (files : FileTree) (directories : DirectorySet)

/-- A directory that is listed at this position, and that is one, has the file below it: through
directories alone that can be walked, and with the suffix. The file's path is spelled from the listed
one. -/
def Sights (t : Sighting) : Prop :=
  ∃ dir node, directories.positions[t.position]? = some (t.file.provider, dir) ∧
    files.node? dir = some node ∧ node.isDirectory = true ∧ node.HasFile s.suffix t.place ∧
    t.file.path = dir.below t.place

def SightsLast (t : Sighting) : Prop :=
  s.Sights files directories t ∧ ∀ u, s.Sights files directories u → t.position < u.position →
    u.file.path.same t.file.path = false

def Excludes (path : Path) : Prop :=
  ∃ exclude, s.exclude = some exclude ∧ exclude.pattern.foundIn path.text = true

/-! The sightings in the order in which the scan comes to them. -/

def placesIn (dir : Path) : List Location :=
  ((files.node? dir).map fun node => node.placesBelow s.suffix).getD []

def sightingsAt (listed : (String × Path) × Nat) : List Sighting :=
  (s.placesIn files listed.1.2).map fun place =>
    ⟨listed.2, place, ⟨listed.1.2.below place, listed.1.1⟩⟩

def sightings : List Sighting := directories.positions.zipIdx.flatMap (s.sightingsAt files)

variable {s files directories} {t u : Sighting}

theorem mem_placesIn_iff {dir : Path} {place : Location} :
    place ∈ s.placesIn files dir ↔
      ∃ node, files.node? dir = some node ∧ node.isDirectory = true ∧ node.HasFile s.suffix place := by
  unfold placesIn
  cases hnode : files.node? dir with
  | none => simp
  | some node =>
    rw [Option.map_some, Option.getD_some,
      FileNode.mem_placesBelow_iff (FileTree.wellFormed_of_node? hnode)]
    cases node with
    | directory info entries => simp [FileNode.isDirectory]
    | file => simp [FileNode.not_hasFile_file]
    | link => simp [FileNode.not_hasFile_link]

theorem pairwise_placesIn (s : Scanner) (files : FileTree) (dir : Path) :
    (s.placesIn files dir).Pairwise (· < ·) := by
  unfold placesIn
  cases hnode : files.node? dir with
  | none => exact List.Pairwise.nil
  | some node => exact FileNode.pairwise_placesBelow (FileTree.wellFormed_of_node? hnode)

theorem mem_sightings_iff : t ∈ s.sightings files directories ↔ s.Sights files directories t := by
  unfold sightings sightingsAt Sights
  simp only [List.mem_flatMap, List.mem_map, mem_placesIn_iff]
  constructor
  · rintro ⟨⟨⟨provider, dir⟩, position⟩, hlisted, place, ⟨node, hnode, hdir, hfile⟩, rfl⟩
    exact ⟨dir, node, List.mem_zipIdx_iff_getElem?.1 hlisted, hnode, hdir, hfile, rfl⟩
  · rintro ⟨dir, node, hlisted, hnode, hdir, hfile, hpath⟩
    refine ⟨((t.file.provider, dir), t.position), List.mem_zipIdx_iff_getElem?.2 hlisted, t.place,
      ⟨node, hnode, hdir, hfile⟩, ?_⟩
    rw [← hpath]

theorem pairwise_sightings (s : Scanner) (files : FileTree) (directories : DirectorySet) :
    (s.sightings files directories).Pairwise Sighting.Before := by
  unfold sightings
  rw [List.pairwise_flatMap]
  constructor
  · rintro ⟨⟨provider, dir⟩, position⟩ -
    exact List.pairwise_map.2 ((pairwise_placesIn s files dir).imp fun h => .inr ⟨rfl, h⟩)
  · have hpositions : (directories.positions.zipIdx.map Prod.snd).Pairwise (· < ·) := by
      rw [List.zipIdx_map_snd]
      exact List.pairwise_lt_range'
    refine (List.pairwise_map.1 hpositions).imp fun {a b} hlt t ht u hu => .inl ?_
    obtain ⟨_, -, rfl⟩ := List.mem_map.1 ht
    obtain ⟨_, -, rfl⟩ := List.mem_map.1 hu
    exact hlt

theorem value_scanDirectory (s : Scanner) (files : FileTree) (provider : String) (dir : Path)
    (position : Nat) :
    (s.scanDirectory files provider dir).value =
      (s.sightingsAt files ((provider, dir), position)).map Sighting.file := by
  unfold scanDirectory sightingsAt placesIn
  rw [List.map_map]
  cases files.node? dir with
  | none => rfl
  | some node =>
    cases node with
    | directory info entries =>
      change ((FileNode.directory info entries).filesBelow s.suffix dir).map _ = _
      rw [FileNode.filesBelow_eq, List.map_map]
      rfl
    | file | link =>
      simp only [Option.map_some, Option.getD_some, FileNode.placesBelow]
      rfl

theorem value_scanAll_cons (s : Scanner) (files : FileTree) (provider : String) (dir : Path)
    (rest : List (String × Path)) :
    (s.scanAll files ((provider, dir) :: rest)).value =
      (s.scanDirectory files provider dir).value ++ (s.scanAll files rest).value :=
  rfl

theorem value_scanAll (s : Scanner) (files : FileTree) (listed : List (String × Path))
    (position : Nat) :
    (s.scanAll files listed).value =
      ((listed.zipIdx position).flatMap (s.sightingsAt files)).map Sighting.file := by
  induction listed generalizing position with
  | nil => rfl
  | cons first rest ih =>
    obtain ⟨provider, dir⟩ := first
    rw [value_scanAll_cons, ih (position + 1), value_scanDirectory s files provider dir position,
      List.zipIdx_cons, List.flatMap_cons, List.map_append]

/-! The last sightings. -/

def lasts : List Sighting → List Sighting
  | [] => []
  | t :: rest =>
    if rest.any fun u => u.file.path.same t.file.path then lasts rest else t :: lasts rest

theorem keepLast_map_file (found : List Sighting) :
    ScanResult.keepLast (found.map Sighting.file) = (lasts found).map Sighting.file := by
  induction found with
  | nil => rfl
  | cons t rest ih =>
    unfold lasts
    rw [List.map_cons, ScanResult.keepLast, List.any_map, ih]
    simp only [Function.comp_def]
    split <;> rfl

theorem lasts_sublist (found : List Sighting) : (lasts found).Sublist found := by
  induction found with
  | nil => exact List.Sublist.slnil
  | cons t rest ih =>
    unfold lasts
    split
    · exact ih.cons _
    · exact ih.cons_cons _

theorem mem_lasts_iff {found : List Sighting} (h : found.Pairwise Sighting.Before) :
    t ∈ lasts found ↔
      t ∈ found ∧ ∀ u ∈ found, t.Before u → u.file.path.same t.file.path = false := by
  induction found with
  | nil => simp [lasts]
  | cons first rest ih =>
    obtain ⟨hfirst, hrest⟩ := List.pairwise_cons.1 h
    by_cases heq : t = first
    · subst heq
      have hnot : t ∉ rest := fun hmem => t.not_before_self (hfirst t hmem)
      have hgone : t ∉ lasts rest := fun hmem => hnot ((lasts_sublist rest).subset hmem)
      have hlater : (∀ u ∈ t :: rest, t.Before u → u.file.path.same t.file.path = false) ↔
          ∀ u ∈ rest, u.file.path.same t.file.path = false := by
        rw [List.forall_mem_cons]
        constructor
        · exact fun hall u hu => hall.2 u hu (hfirst u hu)
        · exact fun hall => ⟨fun hself => absurd hself t.not_before_self, fun u hu _ => hall u hu⟩
      rw [hlater]
      unfold lasts
      split
      · next hany =>
        obtain ⟨u, hu, hsame⟩ := List.any_eq_true.1 hany
        refine ⟨fun hmem => absurd hmem hgone, fun hall => ?_⟩
        rw [hall.2 u hu] at hsame
        cases hsame
      · next hany =>
        refine ⟨fun _ => ⟨List.mem_cons_self, fun u hu => ?_⟩, fun _ => List.mem_cons_self⟩
        rw [Bool.eq_false_iff]
        exact fun hsame => hany (List.any_eq_true.2 ⟨u, hu, hsame⟩)
    · have hmem : t ∈ lasts (first :: rest) ↔ t ∈ lasts rest := by
        rw [lasts]
        split
        · rfl
        · rw [List.mem_cons, or_iff_right heq]
      rw [hmem, ih hrest, List.mem_cons, or_iff_right heq, List.forall_mem_cons]
      refine and_congr_right fun ht => ?_
      have hbefore : ¬t.Before first := (hfirst t ht).asymm
      simp [hbefore]

theorem exists_mem_lasts {found : List Sighting} (h : t ∈ found) :
    ∃ u ∈ lasts found, u.file.path.same t.file.path = true := by
  induction found generalizing t with
  | nil => cases h
  | cons first rest ih =>
    have hmore : ∀ {u}, u ∈ lasts rest → u ∈ lasts (first :: rest) := by
      intro u hu
      rw [lasts]
      split
      · exact hu
      · exact List.mem_cons_of_mem _ hu
    rcases List.mem_cons.1 h with rfl | h
    · by_cases hany : ∃ u ∈ rest, u.file.path.same t.file.path = true
      · obtain ⟨v, hv, hsame⟩ := hany
        obtain ⟨u, hu, hsameLast⟩ := ih hv
        exact ⟨u, hmore hu, Path.same_trans hsameLast hsame⟩
      · refine ⟨t, ?_, Path.same_refl _⟩
        rw [lasts, if_neg (by simpa using hany)]
        exact List.mem_cons_self
    · obtain ⟨u, hu, hsame⟩ := ih h
      exact ⟨u, hmore hu, hsame⟩

theorem Sights.eq_of_same (ht : s.Sights files directories t) (hu : s.Sights files directories u)
    (hposition : t.position = u.position) (hsame : u.file.path.same t.file.path = true) : u = t := by
  obtain ⟨dir, node, hlisted, hnode, -, ⟨⟨_, _, hplace⟩, -⟩, hpath⟩ := ht
  obtain ⟨dir', node', hlisted', hnode', -, ⟨⟨_, _, hplace'⟩, -⟩, hpath'⟩ := hu
  rw [← hposition, hlisted] at hlisted'
  obtain ⟨hprovider, rfl⟩ := Prod.mk.inj (Option.some.inj hlisted')
  cases hnode.symm.trans hnode'
  have hwell := FileTree.wellFormed_of_node? hnode
  have hcomponents := Path.same_iff.1 hsame
  rw [hpath, hpath'] at hcomponents
  have heq := Path.eq_of_same_below (FileTree.raw_ne_empty_of_node? hnode)
    (FileNode.named_of_at? hwell hplace') (FileNode.named_of_at? hwell hplace) hcomponents
  have hfilePath : u.file.path = t.file.path := by rw [hpath, hpath', heq]
  have hfile : u.file = ⟨t.file.path, t.file.provider⟩ := by rw [← hfilePath, hprovider]
  exact Sighting.ext hposition.symm heq hfile

theorem mem_lasts_sightings_iff :
    t ∈ lasts (s.sightings files directories) ↔ s.SightsLast files directories t := by
  rw [mem_lasts_iff (pairwise_sightings s files directories), mem_sightings_iff]
  refine and_congr_right fun ht => ?_
  simp only [mem_sightings_iff]
  constructor
  · exact fun hall u hu hlt => hall u hu (.inl hlt)
  · rintro hall u hu (hlt | ⟨hposition, hplace⟩)
    · exact hall u hu hlt
    · rw [Bool.eq_false_iff]
      intro hsame
      cases ht.eq_of_same hu hposition hsame
      exact List.lt_irrefl _ hplace

theorem SightsLast.eq_of_same (ht : s.SightsLast files directories t)
    (hu : s.SightsLast files directories u) (hsame : u.file.path.same t.file.path = true) : u = t := by
  have hback : t.file.path.same u.file.path = true := Path.same_symm hsame
  rcases Nat.lt_trichotomy t.position u.position with hlt | heq | hlt
  · cases (ht.2 u hu.1 hlt).symm.trans hsame
  · exact ht.1.eq_of_same hu.1 heq hsame
  · cases (hu.2 t ht.1 hlt).symm.trans hback

theorem Sights.exists_last (h : s.Sights files directories t) :
    ∃ u, s.SightsLast files directories u ∧ u.file.path.same t.file.path = true := by
  obtain ⟨u, hu, hsame⟩ := exists_mem_lasts (mem_sightings_iff.2 h)
  exact ⟨u, mem_lasts_sightings_iff.1 hu, hsame⟩

/-! The result of a scan. -/

theorem value_scan (s : Scanner) (files : FileTree) (directories : DirectorySet) :
    (s.scan files directories).value =
      (s.applyExclude ((lasts (s.sightings files directories)).map Sighting.file)).value := by
  rw [← keepLast_map_file]
  unfold sightings
  rw [← value_scanAll s files directories.positions 0]
  rfl

theorem value_applyExclude_some {exclude : Exclusion} (h : s.exclude = some exclude)
    (found : ScanResult) :
    (s.applyExclude found).value =
      List.filter (fun f => !exclude.pattern.foundIn f.path.text) found := by
  unfold applyExclude
  rw [h]
  rfl

theorem applyExclude_sublist (s : Scanner) (found : ScanResult) :
    (s.applyExclude found).value.Sublist found := by
  unfold applyExclude
  split
  · exact List.Sublist.refl _
  · exact List.filter_sublist

theorem mem_applyExclude_iff {found : ScanResult} {f : ScannedFile} :
    f ∈ (s.applyExclude found).value ↔ f ∈ found ∧ ¬s.Excludes f.path := by
  unfold Excludes
  cases h : s.exclude with
  | none =>
    unfold applyExclude
    rw [h]
    simp
  | some exclude =>
    rw [value_applyExclude_some h, List.mem_filter]
    simp

theorem mem_scan_iff {f : ScannedFile} :
    f ∈ (s.scan files directories).value ↔
      ∃ t, s.SightsLast files directories t ∧ t.file = f ∧ ¬s.Excludes f.path := by
  rw [value_scan, mem_applyExclude_iff, List.mem_map]
  constructor
  · rintro ⟨⟨t, ht, rfl⟩, hexcludes⟩
    exact ⟨t, mem_lasts_sightings_iff.1 ht, rfl, hexcludes⟩
  · rintro ⟨t, ht, rfl, hexcludes⟩
    exact ⟨⟨t, mem_lasts_sightings_iff.2 ht, rfl⟩, hexcludes⟩

theorem exists_same_mem_scan_iff {q : Path} :
    (∃ f ∈ (s.scan files directories).value, f.path.same q = true) ↔
      (∃ t, s.Sights files directories t ∧ t.file.path.same q = true) ∧
        ∀ t, s.SightsLast files directories t → t.file.path.same q = true →
          ¬s.Excludes t.file.path := by
  constructor
  · rintro ⟨f, hf, hsame⟩
    obtain ⟨t, ht, rfl, hexcludes⟩ := mem_scan_iff.1 hf
    refine ⟨⟨t, ht.1, hsame⟩, fun u hu hsameLast => ?_⟩
    have hpaths := Path.same_trans hsameLast (Path.same_symm hsame)
    exact ht.eq_of_same hu hpaths ▸ hexcludes
  · rintro ⟨⟨t, ht, hsame⟩, hnot⟩
    obtain ⟨u, hu, hsameLast⟩ := ht.exists_last
    have hpath := Path.same_trans hsameLast hsame
    exact ⟨u.file, mem_scan_iff.2 ⟨u, hu, rfl, hnot u hu hpath⟩, hpath⟩

theorem pairwise_scan (s : Scanner) (files : FileTree) (directories : DirectorySet) :
    (s.scan files directories).value.Pairwise fun f g => ∀ t u,
      s.SightsLast files directories t → s.SightsLast files directories u →
        t.file = f → u.file = g → t.Before u := by
  rw [value_scan]
  refine List.Pairwise.sublist (applyExclude_sublist s _) (List.pairwise_map.2 ?_)
  have hordered := (pairwise_sightings s files directories).sublist (lasts_sublist _)
  refine hordered.imp_of_mem fun {a b} ha hb hbefore t u ht hu hta hub => ?_
  have hat : a = t := ht.eq_of_same (mem_lasts_sightings_iff.1 ha) (hta ▸ Path.same_refl _)
  have hbu : b = u := hu.eq_of_same (mem_lasts_sightings_iff.1 hb) (hub ▸ Path.same_refl _)
  rw [← hat, ← hbu]
  exact hbefore

theorem value_scanAll_filter (s : Scanner) (files : FileTree) (listed : List (String × Path)) :
    (s.scanAll files (listed.filter fun l => files.isDirectory l.2)).value =
      (s.scanAll files listed).value := by
  induction listed with
  | nil => rfl
  | cons first rest ih =>
    obtain ⟨provider, dir⟩ := first
    rw [List.filter_cons]
    cases hdir : files.isDirectory dir with
    | true =>
      rw [if_pos rfl, value_scanAll_cons, value_scanAll_cons, ih]
    | false =>
      have hnone : (files.node? dir).filter FileNode.isDirectory = none := by
        unfold FileTree.isDirectory at hdir
        cases hnode : files.node? dir with
        | none => rfl
        | some node => simpa [hnode] using hdir
      have hempty : (s.scanDirectory files provider dir).value = [] := by
        unfold scanDirectory
        rw [hnone]
        rfl
      rw [if_neg (by simp), ih, value_scanAll_cons, hempty, List.nil_append]

theorem provider?_eq_some_iff {found : ScanResult} (h : found.PathsDiffer) {q : Path}
    {provider : String} :
    found.provider? q = some provider ↔ ∃ f ∈ found, f.path.same q = true ∧ f.provider = provider ∧
      ∀ g ∈ found, g.path.same q = true → g = f := by
  have hunique : ∀ f ∈ found, ∀ g ∈ found, f.path.same q = true → g.path.same q = true → g = f := by
    intro f hf g hg hfq hgq
    exact h.eq_of_same hg hf (Path.same_trans hgq (Path.same_symm hfq))
  unfold ScanResult.provider?
  rw [Option.map_eq_some_iff]
  constructor
  · rintro ⟨f, hfind, rfl⟩
    have hf := List.mem_of_find?_eq_some hfind
    have hsame := List.find?_some hfind
    exact ⟨f, hf, hsame, rfl, fun g hg hg' => hunique f hf g hg hsame hg'⟩
  · rintro ⟨f, hf, hsame, rfl, -⟩
    obtain ⟨g, hfind⟩ := Option.isSome_iff_exists.1
      (List.find?_isSome (p := fun f => f.path.same q) |>.2 ⟨f, hf, hsame⟩)
    have hsameFound := List.find?_some hfind
    have heq := hunique f hf g (List.mem_of_find?_eq_some hfind) hsame hsameFound
    exact ⟨g, hfind, congrArg ScannedFile.provider heq⟩

/-- A scan lists no path twice. It lists a path exactly if some listed directory has a file of that
path below it and the exclude pattern is not found in the path as the last such directory spells it;
then it lists this spelling with that directory's provider. The order is that of these directories,
and within one of them that of the walk. What is listed and is no directory makes no difference, and
the provider of a path is that of the one file listed under it. -/
theorem scan_lists_lastSightings (s : Scanner) (files : FileTree) (directories : DirectorySet) :
    let found := (s.scan files directories).value
    found.PathsDiffer ∧
    (∀ q, (∃ f ∈ found, f.path.same q = true) ↔
      (∃ t, s.Sights files directories t ∧ t.file.path.same q = true) ∧
        ∀ t, s.SightsLast files directories t → t.file.path.same q = true →
          ¬s.Excludes t.file.path) ∧
    (∀ f, f ∈ found ↔
      ∃ t, s.SightsLast files directories t ∧ t.file = f ∧ ¬s.Excludes f.path) ∧
    (found.Pairwise fun f g => ∀ t u, s.SightsLast files directories t →
      s.SightsLast files directories u → t.file = f → u.file = g → t.Before u) ∧
    (∀ other : DirectorySet,
      other.positions.filter (fun l => files.isDirectory l.2) =
        directories.positions.filter (fun l => files.isDirectory l.2) →
      (s.scan files other).value = found) ∧
    ∀ q provider, found.provider? q = some provider ↔
      ∃ f ∈ found, f.path.same q = true ∧ f.provider = provider ∧
        ∀ g ∈ found, g.path.same q = true → g = f := by
  intro found
  refine ⟨pathsDiffer_scan s files directories, fun q => exists_same_mem_scan_iff,
    fun f => mem_scan_iff, pairwise_scan s files directories, fun other hother => ?_,
    fun q provider => provider?_eq_some_iff (pathsDiffer_scan s files directories)⟩
  have hvalue : (s.scanAll files other.positions).value =
      (s.scanAll files directories.positions).value := by
    rw [← value_scanAll_filter, hother, value_scanAll_filter]
  exact congrArg (fun all : ScanResult => (s.applyExclude all.keepLast).value) hvalue

/-- Below `/d` one directory may not be listed, one may not be entered, and one name is no UTF-8. -/
def hiddenFiles : FileTree :=
  FileTree.bare
    |>.put ["d", "closed"] (.directory { listable := false } []) (FileNode.wellFormed_directory_nil _)
    |>.put ["d", "shut"] (.directory { searchable := false } []) (FileNode.wellFormed_directory_nil _)
    |>.put ["d", "closed", "a.yml"] (.file (some .empty) 0) trivial
    |>.put ["d", "shut", "deep", "b.yml"] (.file (some .empty) 0) trivial
    |>.put ["d", ⟨[0xFF]⟩ ++ ".yml"] (.file (some .empty) 0) trivial

/-- To each of the three files lead directories alone, and its name ends with the suffix. -/
theorem hiddenFiles_not_scanned :
    let places : List Location :=
      [["closed", "a.yml"], ["shut", "deep", "b.yml"], [⟨[0xFF]⟩ ++ ".yml"]]
    (∀ place ∈ places, (hiddenFiles.root.at? ("d" :: place)).any FileNode.isFile = true ∧
      place.getLast?.any (fun name => (OsText.ofString ".yml").bytes.isSuffixOf name.bytes) = true) ∧
    (({ suffix := ".yml" } : Scanner).scan hiddenFiles ⟨[("core", [⟨"/d"⟩])]⟩).value = [] := by
  decide +kernel

end Scanner

end PluginHost
