import PluginHost.Keyed
import PluginHost.Path

/-!
A tree of directories, files and symbolic links, and the places that paths lead to in it. A location
is the list of names from the root to a node, without links, dots or empty names.
-/
namespace PluginHost

inductive ReadFault
  | noSuchFile
  | denied
  | notDirectory
  | isDirectory
  | tooManyLinks
  | other (text : String)
  deriving DecidableEq

/-- Only what is listable can be walked through, and only what is searchable can a path pass. -/
structure DirectoryInfo where
  modified : Int := 0
  listable : Bool := true
  searchable : Bool := true

/-- A file that may not be read has no content here. -/
inductive FileNode
  | file (content : Option ByteArray) (modified : Int)
  | directory (info : DirectoryInfo) (entries : List (OsText × FileNode))
  | link (target : Path)
  deriving Inhabited

abbrev Location := List OsText

def IsName (s : OsText) : Prop :=
  s ≠ "" ∧ s ≠ "." ∧ s ≠ ".." ∧ Path.slash ∉ s.bytes ∧ 0 ∉ s.bytes

instance : DecidablePred IsName := fun s =>
  inferInstanceAs (Decidable (s ≠ "" ∧ s ≠ "." ∧ s ≠ ".." ∧ Path.slash ∉ s.bytes ∧ 0 ∉ s.bytes))

def Location.Named (location : Location) : Prop := ∀ name ∈ location, IsName name

instance (location : Location) : Decidable location.Named :=
  inferInstanceAs (Decidable (∀ name ∈ location, IsName name))

namespace FileNode

mutual

/-- Every directory lists its entries under names, in strict order of these. -/
def WellFormed : FileNode → Prop
  | .directory _ entries => Keyed.Ordered entries ∧ WellFormedEntries entries
  | _ => True

def WellFormedEntries : List (OsText × FileNode) → Prop
  | [] => True
  | (name, node) :: rest => IsName name ∧ node.WellFormed ∧ WellFormedEntries rest

end

def isDirectory : FileNode → Bool
  | .directory _ _ => true
  | _ => false

def isFile : FileNode → Bool
  | .file _ _ => true
  | _ => false

/-- When the node was changed last. A link is only ever seen through. -/
def time? : FileNode → Option Int
  | .file _ modified => some modified
  | .directory info _ => some info.modified
  | .link _ => none

def read : FileNode → Except ReadFault ByteArray
  | .file (some content) _ => pure content
  | .file none _ => throw .denied
  | .directory info _ => throw (if info.listable then .isDirectory else .denied)
  | .link _ => throw .noSuchFile

def entry? (node : FileNode) (name : OsText) : Option FileNode :=
  match node with
  | .directory _ entries => Keyed.get? name entries
  | _ => none

def at? (node : FileNode) : Location → Option FileNode
  | [] => some node
  | name :: rest => (node.entry? name).bind fun child => child.at? rest

/-- How far the segments of a path lead without following a link. -/
inductive Advance
  | arrived (location : Location)
  | met (base : Location) (target : Path) (rest : List OsText)
  | nowhere (fault : ReadFault)

/-- What keeps a path from going on with a segment. An empty one looks for nothing in the directory,
but there must be one. -/
def barrier? (segment : OsText) : Option FileNode → Option ReadFault
  | some (.directory info _) => if segment = "" || info.searchable then none else some .denied
  | _ => some .notDirectory

/-- Walk along the segments from a location. Dots and empty segments stay where they are. -/
def advance (root : FileNode) : Location → List OsText → Advance
  | here, [] => .arrived here
  | here, segment :: rest =>
    match barrier? segment (root.at? here) with
    | some fault => .nowhere fault
    | none =>
      if segment = "" || segment = "." then root.advance here rest
      else if segment = ".." then root.advance here.dropLast rest
      else match root.at? (here ++ [segment]) with
        | none => .nowhere .noSuchFile
        | some (.link target) => .met here target rest
        | some _ => root.advance (here ++ [segment]) rest

/-- Where the segments lead from a location, if at most `links` links are followed. -/
def followFrom (root : FileNode) : Nat → Location → List OsText → Except ReadFault Location
  | links, here, segments =>
    match root.advance here segments with
    | .arrived location => pure location
    | .nowhere fault => throw fault
    | .met base target rest =>
      match links with
      | 0 => throw .tooManyLinks
      | links + 1 =>
        let start := if target.isAbsolute then [] else base
        root.followFrom links start (target.segments ++ rest)

def resolveFrom (root : FileNode) (links : Nat) (here : Location) (segments : List OsText) :
    Option Location :=
  (root.followFrom links here segments).toOption

theorem resolveFrom_eq (root : FileNode) (links : Nat) (here : Location) (segments : List OsText) :
    root.resolveFrom links here segments =
      match root.advance here segments, links with
      | .arrived location, _ => some location
      | .met base target rest, links + 1 =>
        root.resolveFrom links (if target.isAbsolute then [] else base) (target.segments ++ rest)
      | _, _ => none := by
  unfold resolveFrom
  rw [followFrom]
  cases root.advance here segments with
  | arrived | nowhere => rfl
  | met => cases links <;> rfl

theorem of_get? {name : OsText} {node : FileNode} :
    ∀ {entries : List (OsText × FileNode)}, WellFormedEntries entries →
      Keyed.get? name entries = some node → IsName name ∧ node.WellFormed
  | [], _, h => by simp [Keyed.get?] at h
  | (k, v) :: rest, hw, h => by
    unfold WellFormedEntries at hw
    simp only [Keyed.get?] at h
    split at h
    · next hk => exact ⟨hk ▸ hw.1, Option.some.inj h ▸ hw.2.1⟩
    · exact of_get? hw.2.2 h

theorem named_of_at? {location : Location} {root node : FileNode} (hw : root.WellFormed)
    (h : root.at? location = some node) : location.Named := by
  induction location generalizing root with
  | nil => exact fun _ hn => absurd hn List.not_mem_nil
  | cons name rest ih =>
    obtain ⟨child, hc, hr⟩ := Option.bind_eq_some_iff.1 h
    cases root with
    | directory info entries =>
      unfold WellFormed at hw
      have hchild := of_get? hw.2 hc
      intro n hn
      rcases List.mem_cons.1 hn with rfl | hn
      · exact hchild.1
      · exact ih hchild.2 hr n hn
    | file | link => cases hc

theorem wellFormed_of_at? {location : Location} {root node : FileNode} (hw : root.WellFormed)
    (h : root.at? location = some node) : node.WellFormed := by
  induction location generalizing root with
  | nil => exact Option.some.inj h ▸ hw
  | cons name rest ih =>
    obtain ⟨child, hchild, hrest⟩ := Option.bind_eq_some_iff.1 h
    cases root with
    | directory info entries =>
      unfold WellFormed at hw
      exact ih (of_get? hw.2 hchild).2 hrest
    | file | link => cases hchild

theorem named_of_advance {root : FileNode} (hw : root.WellFormed) {here : Location}
    (hn : here.Named) (segments : List OsText) :
    (∀ location, root.advance here segments = .arrived location → location.Named) ∧
      ∀ base target rest, root.advance here segments = .met base target rest → base.Named := by
  induction segments generalizing here with
  | nil => simp [advance, hn]
  | cons segment rest ih =>
    simp only [advance]
    split
    · simp
    · split
      · exact ih hn
      · split
        · exact ih fun n hm => hn n (List.dropLast_subset _ hm)
        · split
          · simp
          · simp [hn]
          · next h => exact ih (named_of_at? hw h)

theorem named_of_resolveFrom {root : FileNode} (hw : root.WellFormed) (links : Nat)
    {here location : Location} (hn : here.Named) {segments : List OsText}
    (h : root.resolveFrom links here segments = some location) : location.Named := by
  induction links generalizing here segments with
  | zero =>
    rw [resolveFrom_eq] at h
    split at h
    · next ha => exact Option.some.inj h ▸ (named_of_advance hw hn segments).1 _ ha
    · next heq => cases heq
    · cases h
  | succ links ih =>
    rw [resolveFrom_eq] at h
    split at h
    · next ha => exact Option.some.inj h ▸ (named_of_advance hw hn segments).1 _ ha
    · next base target rest _ ha heq =>
      cases heq
      refine ih ?_ h
      split
      · exact fun _ hm => absurd hm List.not_mem_nil
      · exact (named_of_advance hw hn segments).2 _ _ _ ha
    · cases h

end FileNode

/-- `here` is the working directory, from which relative paths start. Its own path is taken to lead to
it: nothing on the way from the root is missing, a link or not searchable. -/
structure FileTree where
  root : FileNode
  wellFormed : root.WellFormed
  here : Location
  named : here.Named

namespace FileTree

/-- A path that needs more links than this leads nowhere. -/
def linkLimit : Nat := 40

def startOf (t : FileTree) (p : Path) : Location := if p.isAbsolute then [] else t.here

/-- Where a path leads. The empty one leads nowhere. -/
def follow (t : FileTree) (p : Path) : Except ReadFault Location :=
  if p.raw = "" then throw .noSuchFile
  else t.root.followFrom linkLimit (t.startOf p) p.segments

def resolve (t : FileTree) (p : Path) : Option Location := (t.follow p).toOption

theorem resolve_eq (t : FileTree) (p : Path) :
    t.resolve p = if p.raw = "" then none
      else t.root.resolveFrom linkLimit (t.startOf p) p.segments := by
  unfold resolve follow
  split <;> rfl

theorem named_of_resolve {t : FileTree} {p : Path} {location : Location}
    (h : t.resolve p = some location) : location.Named := by
  rw [resolve_eq] at h
  split at h
  · cases h
  · refine FileNode.named_of_resolveFrom t.wellFormed _ ?_ h
    unfold startOf
    split
    · exact fun _ hm => absurd hm List.not_mem_nil
    · exact t.named

def node? (t : FileTree) (p : Path) : Option FileNode := (t.resolve p).bind t.root.at?

def isDirectory (t : FileTree) (p : Path) : Bool := (t.node? p).any FileNode.isDirectory

def isFile (t : FileTree) (p : Path) : Bool := (t.node? p).any FileNode.isFile

def pathOf (location : Location) : Path := ⟨"/" ++ OsText.intercalate "/" location⟩

/-- The absolute path, without links, dots and empty segments, of what a path leads to. -/
def canonical (t : FileTree) (p : Path) : Option Path := (t.resolve p).map pathOf

def read (t : FileTree) (p : Path) : Except ReadFault ByteArray := do
  match t.root.at? (← t.follow p) with
  | some node => node.read
  | none => throw .noSuchFile

/-- Nanoseconds from the epoch to the last change; nothing for a change before it. -/
def modified? (t : FileTree) (p : Path) : Option Nat :=
  match (t.node? p).bind FileNode.time? with
  | some modified => if 0 ≤ modified then some modified.toNat else none
  | none => none

end FileTree

end PluginHost
