import PluginHost.FileTree

/-!
Changes of a file tree. Each keeps the order of the directories' entries.
-/
namespace PluginHost

namespace FileNode

/-- Put a node at a location; directories that are missing on the way are made. Nothing is put below
a file or link. -/
def put (new : FileNode) : Location → FileNode → FileNode
  | [], _ => new
  | name :: rest, .directory info entries =>
    let child := (Keyed.get? name entries).getD (.directory {} [])
    .directory info (Keyed.insert name (put new rest child) entries)
  | _ :: _, node => node

def remove : Location → FileNode → FileNode
  | [name], .directory info entries => .directory info (Keyed.erase name entries)
  | name :: rest, .directory info entries =>
    match Keyed.get? name entries with
    | some child => .directory info (Keyed.insert name (remove rest child) entries)
    | none => .directory info entries
  | _, node => node

theorem wellFormedEntries_insert {name : OsText} {node : FileNode} (hs : IsName name)
    (hn : node.WellFormed) :
    ∀ {entries : List (OsText × FileNode)}, WellFormedEntries entries →
      WellFormedEntries (Keyed.insert name node entries)
  | [], _ => by simp [Keyed.insert, WellFormedEntries, hs, hn]
  | (k, v) :: rest, hw => by
    have hw' := hw
    unfold WellFormedEntries at hw'
    simp only [Keyed.insert]
    split
    · simpa [WellFormedEntries] using ⟨hs, hn, hw'.2.2⟩
    · split
      · simpa [WellFormedEntries] using ⟨hs, hn, hw'⟩
      · simpa [WellFormedEntries] using
          ⟨hw'.1, hw'.2.1, wellFormedEntries_insert hs hn hw'.2.2⟩

theorem wellFormedEntries_erase {name : OsText} :
    ∀ {entries : List (OsText × FileNode)}, WellFormedEntries entries →
      WellFormedEntries (Keyed.erase name entries)
  | [], _ => by simp [Keyed.erase, WellFormedEntries]
  | (k, v) :: rest, hw => by
    unfold WellFormedEntries at hw
    simp only [Keyed.erase]
    split
    · exact hw.2.2
    · simpa [WellFormedEntries] using ⟨hw.1, hw.2.1, wellFormedEntries_erase hw.2.2⟩

def withTime (modified : Int) : FileNode → FileNode
  | .file content _ => .file content modified
  | .directory info entries => .directory { info with modified } entries
  | .link target => .link target

theorem wellFormed_withTime {node : FileNode} (h : node.WellFormed) (modified : Int) :
    (node.withTime modified).WellFormed := by
  cases node with
  | directory info entries => simpa [withTime, WellFormed] using h
  | file | link => simp [withTime, WellFormed]

theorem wellFormed_directory_nil (info : DirectoryInfo) : (directory info []).WellFormed := by
  simp [WellFormed, WellFormedEntries, Keyed.ordered_nil]

theorem wellFormed_put {new : FileNode} (hn : new.WellFormed) :
    ∀ {location : Location} {node : FileNode}, location.Named → node.WellFormed →
      (put new location node).WellFormed
  | [], _, _, _ => by simpa [put] using hn
  | name :: rest, .directory info entries, hs, h => by
    unfold WellFormed at h
    obtain ⟨hname, hrest⟩ := List.forall_mem_cons.1 hs
    simp only [put, WellFormed]
    refine ⟨Keyed.ordered_insert h.1,
      wellFormedEntries_insert hname (wellFormed_put hn hrest ?_) h.2⟩
    cases hg : Keyed.get? name entries with
    | none => exact wellFormed_directory_nil _
    | some child => exact (of_get? h.2 hg).2
  | _ :: _, .file _ _, _, h => by simpa [put] using h
  | _ :: _, .link _, _, h => by simpa [put] using h

theorem wellFormed_remove :
    ∀ {location : Location} {node : FileNode}, node.WellFormed → (remove location node).WellFormed
  | [], node, h => by simpa [remove] using h
  | _ :: _, .file _ _, h => by simpa [remove] using h
  | _ :: _, .link _, h => by simpa [remove] using h
  | [name], .directory info entries, h => by
    unfold WellFormed at h
    simp only [remove, WellFormed]
    exact ⟨Keyed.ordered_erase h.1, wellFormedEntries_erase h.2⟩
  | name :: next :: rest, .directory info entries, h => by
    have h' := h
    unfold WellFormed at h'
    simp only [remove]
    split
    · next child hg =>
      have hchild := of_get? h'.2 hg
      unfold WellFormed
      exact ⟨Keyed.ordered_insert h'.1,
        wellFormedEntries_insert hchild.1 (wellFormed_remove hchild.2) h'.2⟩
    · exact h

end FileNode

namespace FileTree

def ofHere (here : Location) (named : here.Named := by decide) : FileTree where
  root := .put (.directory {} []) here (.directory {} [])
  wellFormed := FileNode.wellFormed_put (FileNode.wellFormed_directory_nil _) named
    (FileNode.wellFormed_directory_nil _)
  here := here
  named := named

/-- Nothing but a root. -/
def bare : FileTree := ofHere []

/-- Put a node at a location. What is no name cannot come to stand in a directory. -/
def put (t : FileTree) (location : Location) (node : FileNode) (h : node.WellFormed) : FileTree :=
  if named : location.Named then
    { t with
      root := .put node location t.root
      wellFormed := FileNode.wellFormed_put h named t.wellFormed }
  else t

def takeAway (t : FileTree) (location : Location) : FileTree :=
  { t with
    root := .remove location t.root
    wellFormed := FileNode.wellFormed_remove t.wellFormed }

def enter (t : FileTree) (p : Path) : FileTree :=
  match h : t.resolve p with
  | some location => { t with here := location, named := named_of_resolve h }
  | none => t

def splitName (p : Path) : List OsText × OsText :=
  let named := p.segments.reverse.dropWhile fun s : OsText => s = "" || s = "."
  (named.tail.reverse, named.headD "")

/-- The place of what a path names, without following a link at its end. -/
def place? (t : FileTree) (p : Path) : Option Location :=
  let (parents, name) := splitName p
  (t.root.resolveFrom linkLimit (t.startOf p) parents).map (· ++ [name])

/-- Make the directories along some segments that are missing, each `done` before. -/
def makeAlong (t : FileTree) (start : Location) : List OsText → List OsText → FileTree
  | _, [] => t
  | done, segment :: rest =>
    let path := done ++ [segment]
    let t := match t.root.resolveFrom linkLimit start path with
      | some _ => t
      | none =>
        match t.root.resolveFrom linkLimit start done with
        | some parent =>
          t.put (parent ++ [segment]) (.directory {} []) (FileNode.wellFormed_directory_nil _)
        | none => t
    t.makeAlong start path rest

def makeDirectory (t : FileTree) (p : Path) : FileTree :=
  t.makeAlong (t.startOf p) [] p.segments

def makeParents (t : FileTree) (p : Path) : FileTree :=
  t.makeAlong (t.startOf p) [] (splitName p).1

/-- Where a file that is written under a path comes to stand: links at the end are followed. -/
def writePlace? (t : FileTree) : Nat → Location → List OsText → OsText → Option Location
  | links, start, parents, name =>
    match t.root.resolveFrom linkLimit start parents with
    | none => none
    | some parent =>
      match t.root.at? (parent ++ [name]), links with
      | some (.link target), links + 1 =>
        let (parents, name) := splitName target
        t.writePlace? links (if target.isAbsolute then [] else parent) parents name
      | some (.link _), 0 => none
      | some (.directory _ _), _ => none
      | _, _ => some (parent ++ [name])

def write (t : FileTree) (p : Path) (content : ByteArray) (modified : Int) : FileTree :=
  let t := t.makeParents p
  let (parents, name) := splitName p
  match t.writePlace? linkLimit (t.startOf p) parents name with
  | some place => t.put place (.file (some content) modified) trivial
  | none => t

def makeLink (t : FileTree) (target p : Path) : FileTree :=
  let t := t.makeParents p
  match t.place? p with
  | some place => if (t.root.at? place).isSome then t else t.put place (.link target) trivial
  | none => t

def remove (t : FileTree) (p : Path) : FileTree :=
  match t.place? p with
  | some place => t.takeAway place
  | none => t

def setModified (t : FileTree) (p : Path) (modified : Int) : FileTree :=
  match t.resolve p with
  | some place =>
    match h : t.root.at? place with
    | some node =>
      t.put place (node.withTime modified)
        (FileNode.wellFormed_withTime (FileNode.wellFormed_of_at? t.wellFormed h) modified)
    | none => t
  | none => t

end FileTree

end PluginHost
