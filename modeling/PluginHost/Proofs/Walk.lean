import PluginHost.Keyed.Lemmas
import PluginHost.Proofs.Path
import PluginHost.Scan

/-!
What the walk through a directory collects, and in which order. Files are known by the names that
lead down to them: the walk lists exactly those that it is let through to and whose last name is a
text with the suffix, in strictly increasing order of the names.
-/
namespace PluginHost.FileNode

mutual

def placesBelow (suffix : String) : FileNode → List Location
  | .directory info entries =>
    if info.listable then placesAmong suffix info.searchable entries else []
  | _ => []

def placesAmong (suffix : String) (enter : Bool) : List (OsText × FileNode) → List Location
  | [] => []
  | (name, node) :: rest =>
    let here := if node.isFile && name.hasSuffix suffix then [[name]] else []
    let below := if enter then node.placesBelow suffix else []
    here ++ below.map (name :: ·) ++ placesAmong suffix enter rest

end

/-- Every directory on the way that these names go may be listed, and also be entered unless the way
ends with an entry of it. -/
def LetsThrough (node : FileNode) (names : Location) : Prop :=
  ∀ above name below info entries, names = above ++ name :: below →
    node.at? above = some (.directory info entries) →
      info.listable = true ∧ (below = [] ∨ info.searchable = true)

/-- Down from a node these names lead, through directories alone and by a way that is open, to a
regular file whose name is in UTF-8 and ends with the suffix. -/
def HasFile (suffix : String) (node : FileNode) (names : Location) : Prop :=
  (∃ content modified, node.at? names = some (.file content modified)) ∧
    (∃ name : String, names.getLast? = some (.ofString name) ∧ name.endsWith suffix = true) ∧
    node.LetsThrough names

variable {suffix : String}

theorem map_below_cons (path : Path) (name : OsText) (places : List Location) :
    (places.map (name :: ·)).map path.below = places.map (path.child name).below := by
  rw [List.map_map]
  rfl

mutual

theorem filesBelow_eq (suffix : String) (path : Path) :
    ∀ node : FileNode, node.filesBelow suffix path = (node.placesBelow suffix).map path.below
  | .directory info entries => by
    unfold filesBelow placesBelow
    rw [filesAmong_eq suffix path info.searchable entries]
    split <;> rfl
  | .file _ _ => by simp [filesBelow, placesBelow]
  | .link _ => by simp [filesBelow, placesBelow]

theorem filesAmong_eq (suffix : String) (path : Path) (enter : Bool) :
    ∀ entries : List (OsText × FileNode),
      filesAmong suffix path enter entries = (placesAmong suffix enter entries).map path.below
  | [] => by simp [filesAmong, placesAmong]
  | (name, node) :: rest => by
    unfold filesAmong placesAmong
    rw [filesBelow_eq suffix (path.child name) node, filesAmong_eq suffix path enter rest,
      List.map_append, List.map_append, map_below_cons]
    split <;> cases enter <;> rfl

end

theorem mem_placesAmong_iff {enter : Bool} {entries : List (OsText × FileNode)} {names : Location} :
    names ∈ placesAmong suffix enter entries ↔
      ∃ name node, (name, node) ∈ entries ∧
        ((names = [name] ∧ node.isFile = true ∧ name.hasSuffix suffix = true) ∨
          enter = true ∧ ∃ rest ∈ node.placesBelow suffix, names = name :: rest) := by
  induction entries with
  | nil => simp [placesAmong]
  | cons e entries ih =>
    obtain ⟨name, node⟩ := e
    unfold placesAmong
    simp only [List.mem_append, ih, List.mem_map, List.mem_cons, Prod.mk.injEq]
    constructor
    · rintro ((hhere | ⟨rest, hrest, rfl⟩) | ⟨other, child, hmem, hother⟩)
      · split at hhere
        · next h =>
          simp only [Bool.and_eq_true] at h
          exact ⟨name, node, .inl ⟨rfl, rfl⟩, .inl ⟨List.mem_singleton.1 hhere, h⟩⟩
        · cases hhere
      · split at hrest
        · next henter => exact ⟨name, node, .inl ⟨rfl, rfl⟩, .inr ⟨henter, rest, hrest, rfl⟩⟩
        · cases hrest
      · exact ⟨other, child, .inr hmem, hother⟩
    · rintro ⟨other, child, ⟨rfl, rfl⟩ | hmem, hother⟩
      · rcases hother with ⟨rfl, hfile, hsuffix⟩ | ⟨rfl, rest, hrest, rfl⟩
        · simp [hfile, hsuffix]
        · exact .inl (.inr ⟨rest, hrest, rfl⟩)
      · exact .inr ⟨other, child, hmem, hother⟩

theorem isFile_iff {node : FileNode} :
    node.isFile = true ↔ ∃ content modified, node = .file content modified := by
  cases node <;> simp [isFile]

theorem not_hasFile_nil {node : FileNode} : ¬HasFile suffix node [] := by
  rintro ⟨-, ⟨name, hlast, -⟩, -⟩
  cases hlast

theorem at?_cons {info : DirectoryInfo} {entries : List (OsText × FileNode)} {name : OsText}
    {node : FileNode} (hnode : Keyed.get? name entries = some node) (below : Location) :
    (directory info entries).at? (name :: below) = node.at? below := by
  rw [at?, entry?, hnode, Option.bind_some]

theorem letsThrough_cons_iff {info : DirectoryInfo} {entries : List (OsText × FileNode)}
    {name : OsText} {node : FileNode} {rest : Location}
    (hnode : Keyed.get? name entries = some node) :
    (directory info entries).LetsThrough (name :: rest) ↔
      info.listable = true ∧ (rest = [] ∨ info.searchable = true) ∧ node.LetsThrough rest := by
  constructor
  · intro h
    have hhere := h [] name rest info entries rfl rfl
    refine ⟨hhere.1, hhere.2, fun above next below info' entries' hnames habove => ?_⟩
    exact h (name :: above) next below info' entries' (by rw [hnames, List.cons_append])
      ((at?_cons hnode above).trans habove)
  · rintro ⟨hlist, hsearch, hrest⟩ above next below info' entries' hnames habove
    cases above with
    | nil =>
      obtain ⟨rfl, rfl⟩ := List.cons.inj hnames
      cases Option.some.inj habove
      exact ⟨hlist, hsearch⟩
    | cons first above =>
      obtain ⟨rfl, hbelow⟩ := List.cons.inj hnames
      exact hrest above next below info' entries' hbelow ((at?_cons hnode above).symm.trans habove)

theorem letsThrough_nil {node : FileNode} : node.LetsThrough [] := by
  intro above name below _ _ hnames
  simp at hnames

theorem hasFile_directory_iff {info : DirectoryInfo} {entries : List (OsText × FileNode)}
    (h : Keyed.Ordered entries) {names : Location} :
    HasFile suffix (.directory info entries) names ↔
      info.listable = true ∧ ∃ name node, (name, node) ∈ entries ∧
        ((names = [name] ∧ node.isFile = true ∧ name.hasSuffix suffix = true) ∨
          info.searchable = true ∧ ∃ rest, HasFile suffix node rest ∧ names = name :: rest) := by
  constructor
  · rintro ⟨⟨content, modified, hat⟩, ⟨last, hlast, hsuffix⟩, hopen⟩
    cases names with
    | nil => cases hlast
    | cons name rest =>
      obtain ⟨node, hnode, hrest⟩ := Option.bind_eq_some_iff.1 hat
      obtain ⟨hlist, hsearch, hopen⟩ := (letsThrough_cons_iff hnode).1 hopen
      refine ⟨hlist, name, node, (Keyed.mem_iff_get? h).2 hnode, ?_⟩
      cases rest with
      | nil =>
        cases Option.some.inj hrest
        exact .inl ⟨rfl, rfl, OsText.hasSuffix_iff.2 ⟨last, Option.some.inj hlast, hsuffix⟩⟩
      | cons next rest =>
        rw [List.getLast?_cons_cons] at hlast
        exact .inr ⟨hsearch.resolve_left (List.cons_ne_nil _ _), next :: rest,
          ⟨⟨content, modified, hrest⟩, ⟨last, hlast, hsuffix⟩, hopen⟩, rfl⟩
  · rintro ⟨hlist, name, node, hmem, hentry⟩
    have hnode : Keyed.get? name entries = some node := (Keyed.mem_iff_get? h).1 hmem
    rcases hentry with ⟨rfl, hfile, hsuffix⟩ |
      ⟨hsearch, rest, ⟨⟨content, modified, hrest⟩, ⟨last, hlast, hsuffix⟩, hopen⟩, rfl⟩
    · obtain ⟨content, modified, rfl⟩ := isFile_iff.1 hfile
      obtain ⟨last, rfl, hends⟩ := OsText.hasSuffix_iff.1 hsuffix
      exact ⟨⟨content, modified, at?_cons hnode []⟩, ⟨last, rfl, hends⟩,
        (letsThrough_cons_iff hnode).2 ⟨hlist, .inl rfl, letsThrough_nil⟩⟩
    · refine ⟨⟨content, modified, (at?_cons hnode rest).trans hrest⟩, ⟨last, ?_, hsuffix⟩,
        (letsThrough_cons_iff hnode).2 ⟨hlist, .inr hsearch, hopen⟩⟩
      cases rest with
      | nil => cases hlast
      | cons next rest => rw [List.getLast?_cons_cons, hlast]

theorem not_hasFile_file {content : Option ByteArray} {modified : Int} {names : Location} :
    ¬HasFile suffix (.file content modified) names := by
  cases names with
  | nil => exact not_hasFile_nil
  | cons name rest =>
    rintro ⟨⟨_, _, hat⟩, -⟩
    cases hat

theorem not_hasFile_link {target : Path} {names : Location} :
    ¬HasFile suffix (.link target) names := by
  rintro ⟨⟨_, _, hat⟩, -⟩
  cases names <;> cases hat

mutual

theorem mem_placesBelow_iff :
    ∀ {node : FileNode}, node.WellFormed → ∀ {names : Location},
      names ∈ node.placesBelow suffix ↔ HasFile suffix node names
  | .file _ _, _, _ => by simp [placesBelow, not_hasFile_file]
  | .link _, _, _ => by simp [placesBelow, not_hasFile_link]
  | .directory info entries, h, names => by
    unfold WellFormed at h
    rw [hasFile_directory_iff h.1, placesBelow, List.mem_ite_nil_right, mem_placesAmong_iff]
    refine and_congr_right fun _ => exists_congr fun name => exists_congr fun node =>
      and_congr_right fun hmem => ?_
    simp only [mem_placesBelow_entry_iff h.2 (name, node) hmem]

theorem mem_placesBelow_entry_iff :
    ∀ {entries : List (OsText × FileNode)}, WellFormedEntries entries → ∀ e ∈ entries,
      ∀ {names : Location}, names ∈ e.2.placesBelow suffix ↔ HasFile suffix e.2 names
  | [], _, e, he, _ => absurd he List.not_mem_nil
  | (name, node) :: rest, h, e, he, names => by
    unfold WellFormedEntries at h
    rcases List.mem_cons.1 he with rfl | he
    · exact mem_placesBelow_iff h.2.1
    · exact mem_placesBelow_entry_iff h.2.2 e he

end

/-! The order of the walk. -/

theorem placesBelow_of_isFile {node : FileNode} (h : node.isFile = true) :
    node.placesBelow suffix = [] := by
  obtain ⟨content, modified, rfl⟩ := isFile_iff.1 h
  unfold placesBelow
  rfl

theorem pairwise_places_of_entry {name : OsText} {node : FileNode} {enter : Bool}
    (h : (node.placesBelow suffix).Pairwise (· < ·)) :
    ((if node.isFile && name.hasSuffix suffix then [[name]] else []) ++
      (if enter then node.placesBelow suffix else []).map (name :: ·)).Pairwise (· < ·) := by
  have hbelow : (if enter then node.placesBelow suffix else []).Pairwise (· < ·) := by
    split
    · exact h
    · exact List.Pairwise.nil
  split
  · next hfile =>
    rw [placesBelow_of_isFile (Bool.and_eq_true_iff.1 hfile).1, ite_self]
    exact List.pairwise_singleton _ _
  · exact List.pairwise_map.2 (hbelow.imp fun hlt => List.cons_lt_cons_iff.2 (.inr ⟨rfl, hlt⟩))

theorem exists_cons_of_mem_placesAmong {enter : Bool} {entries : List (OsText × FileNode)}
    {names : Location} (h : names ∈ placesAmong suffix enter entries) :
    ∃ name rest, names = name :: rest ∧ name ∈ entries.map Prod.fst := by
  obtain ⟨name, node, hmem, ⟨rfl, -⟩ | ⟨-, rest, -, rfl⟩⟩ := mem_placesAmong_iff.1 h
  · exact ⟨name, [], rfl, List.mem_map_of_mem hmem⟩
  · exact ⟨name, rest, rfl, List.mem_map_of_mem hmem⟩

mutual

/-- The walk goes through the files in the order of their names, compared one by one from the
directory down. -/
theorem pairwise_placesBelow :
    ∀ {node : FileNode}, node.WellFormed → (node.placesBelow suffix).Pairwise (· < ·)
  | .file _ _, _ => by simp [placesBelow]
  | .link _, _ => by simp [placesBelow]
  | .directory info entries, h => by
    unfold WellFormed at h
    rw [placesBelow]
    split
    · exact pairwise_placesAmong h.1 h.2
    · exact List.Pairwise.nil

theorem pairwise_placesAmong {enter : Bool} :
    ∀ {entries : List (OsText × FileNode)}, Keyed.Ordered entries → WellFormedEntries entries →
      (placesAmong suffix enter entries).Pairwise (· < ·)
  | [], _, _ => by simp [placesAmong]
  | (name, node) :: rest, hordered, h => by
    unfold WellFormedEntries at h
    obtain ⟨hfirst, hrest⟩ := List.pairwise_cons.1 hordered
    unfold placesAmong
    refine List.pairwise_append.2 ⟨pairwise_places_of_entry (pairwise_placesBelow h.2.1),
      pairwise_placesAmong hrest h.2.2, fun names hnames later hlater => ?_⟩
    obtain ⟨other, below, rfl, hother⟩ := exists_cons_of_mem_placesAmong hlater
    have hname : ∃ below, names = name :: below := by
      rcases List.mem_append.1 hnames with hhere | hbelow
      · split at hhere
        · exact ⟨[], List.mem_singleton.1 hhere⟩
        · cases hhere
      · obtain ⟨below, -, hbelow⟩ := List.mem_map.1 hbelow
        exact ⟨below, hbelow.symm⟩
    obtain ⟨below, rfl⟩ := hname
    exact List.cons_lt_cons_iff.2 (.inl (hfirst other hother))

end

end PluginHost.FileNode
