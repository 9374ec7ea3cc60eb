import PluginHost.Proofs.Scan.Sighting

/-!
The order in which the walk through one directory collects its files: that of the names which lead
down to them, compared one by one from the directory on, each by its bytes. It is not the order of
the paths as texts.
-/
namespace PluginHost

theorem Location.bytes_lt_of_lt :
    ∀ {a b : Location}, a < b → a.map OsText.bytes < b.map OsText.bytes
  | _, [], h => absurd h (List.not_lt_nil _)
  | [], _ :: _, _ => List.nil_lt_cons _ _
  | m :: a, n :: b, h => by
    rw [List.map_cons, List.map_cons, List.cons_lt_cons_iff]
    rcases List.cons_lt_cons_iff.1 h with hlt | ⟨rfl, hlt⟩
    · exact .inl hlt
    · exact .inr ⟨rfl, bytes_lt_of_lt hlt⟩

namespace Scanner

variable {s : Scanner} {files : FileTree} {dir : Path} {place : Location}

theorem named_of_mem_placesIn (h : place ∈ s.placesIn files dir) :
    dir.raw ≠ "" ∧ place.Named := by
  obtain ⟨node, hnode, -, ⟨⟨content, modified, hat⟩, -⟩⟩ := mem_placesIn_iff.1 h
  exact ⟨FileTree.raw_ne_empty_of_node? hnode,
    FileNode.named_of_at? (FileTree.wellFormed_of_node? hnode) hat⟩

theorem components_of_mem_placesIn (h : place ∈ s.placesIn files dir) :
    (dir.below place).components = dir.components ++ place.map .name :=
  Path.components_below (named_of_mem_placesIn h).1 (named_of_mem_placesIn h).2

/-- Walking one directory collects each regular file below it that the walk is let through to and
whose name is in UTF-8 and has the suffix, and nothing else, each once, in strictly increasing order
of the names that lead down to it. -/
theorem walk_in_order_of_bytes (s : Scanner) (files : FileTree) (provider : String) (dir : Path) :
    let collected := (s.scanDirectory files provider dir).value
    ∃ places : List Location,
      collected = places.map (fun place => ⟨dir.below place, provider⟩) ∧
      (∀ place ∈ places, (dir.below place).components = dir.components ++ place.map .name) ∧
      (places.Pairwise fun a b => a.map OsText.bytes < b.map OsText.bytes) ∧
      (∀ place, place ∈ places ↔
        ∃ node, files.node? dir = some node ∧ node.isDirectory = true ∧ node.HasFile s.suffix place) ∧
      collected.PathsDiffer := by
  intro collected
  have hordered := pairwise_placesIn s files dir
  have hcollected : collected =
      (s.placesIn files dir).map fun place => ⟨dir.below place, provider⟩ := by
    rw [show collected = _ from value_scanDirectory s files provider dir 0]
    unfold sightingsAt
    rw [List.map_map]
    rfl
  refine ⟨s.placesIn files dir, hcollected, fun place => components_of_mem_placesIn,
    hordered.imp Location.bytes_lt_of_lt, fun place => mem_placesIn_iff, ?_⟩
  -- Places with the same path are equal, and no place comes before itself.
  rw [hcollected]
  refine List.pairwise_map.2 (hordered.imp_of_mem fun {a b} ha hb hlt hsame => ?_)
  obtain ⟨hdir, hnamed⟩ := named_of_mem_placesIn ha
  have heq := Path.eq_of_same_below hdir hnamed (named_of_mem_placesIn hb).2
    (Path.same_iff.1 hsame)
  exact List.lt_irrefl b (heq ▸ hlt)

/-- Three files below `/d` have names that end with the suffix, and none is collected. -/
theorem hiddenFiles_not_collected :
    let isMissing (place : Location) : Bool :=
      (hiddenFiles.root.at? ("d" :: place)).any FileNode.isFile &&
        place.getLast?.any (fun name => (OsText.ofString ".yml").bytes.isSuffixOf name.bytes) &&
        !(({ suffix := ".yml" } : Scanner).scanDirectory hiddenFiles "core" ⟨"/d"⟩).value.any
          fun f => f.path.same ((⟨"/d"⟩ : Path).below place)
    isMissing ["closed", "a.yml"] = true ∧ isMissing ["shut", "deep", "b.yml"] = true ∧
      isMissing [⟨[0xFF]⟩ ++ ".yml"] = true := by
  decide +kernel

/-- A file in `a` comes before the file `a.yml`, although its path is the greater text. -/
example :
    let file := FileNode.file (some .empty) 0
    let tree := FileNode.directory {} [("a", .directory {} [("z.yml", file)]), ("a.yml", file)]
    let places : List Location := [["a", "z.yml"], ["a.yml"]]
    tree.placesBelow ".yml" = places ∧ "a.yml" < "a/z.yml" := by
  decide +kernel

end Scanner

end PluginHost
