import PluginHost.FileTree.Change
import PluginHost.Keyed.Lemmas
import PluginHost.Proofs.OsText

/-!
Places of a tree and the paths that lead to them.
-/
namespace PluginHost

namespace FileNode

variable {root : FileNode}

theorem advance_eq_nowhere {segment : OsText} {segments : List OsText}
    (hlinks : ∀ location target, root.at? location ≠ some (.link target))
    (hname : segment ≠ "" ∧ segment ≠ "." ∧ segment ≠ "..")
    (hnone : ∀ location, root.at? (location ++ [segment]) = none) (h : segment ∈ segments)
    (here : Location) : ∃ fault, root.advance here segments = .nowhere fault := by
  induction segments generalizing here with
  | nil => cases h
  | cons next rest ih =>
    have hrest : next ≠ segment → segment ∈ rest := fun hne =>
      (List.mem_cons.1 h).resolve_left (Ne.symm hne)
    unfold advance
    split
    · next fault _ => exact ⟨fault, rfl⟩
    · split
      · next hdot =>
        apply ih
        apply hrest
        rintro rfl
        simp [hname] at hdot
      · split
        · next hparent => exact ih (hrest fun heq => hname.2.2 (heq ▸ hparent)) _
        · split
          · exact ⟨_, rfl⟩
          · next target hlink => exact absurd hlink (hlinks _ target)
          · next node hnode =>
            apply ih
            apply hrest
            rintro rfl
            rw [hnone here] at hnode
            cases hnode

theorem resolveFrom_eq_none {segment : OsText} {segments : List OsText}
    (hlinks : ∀ location target, root.at? location ≠ some (.link target))
    (hname : segment ≠ "" ∧ segment ≠ "." ∧ segment ≠ "..")
    (hnone : ∀ location, root.at? (location ++ [segment]) = none) (h : segment ∈ segments)
    (links : Nat) (here : Location) : root.resolveFrom links here segments = none := by
  obtain ⟨fault, hnowhere⟩ := advance_eq_nowhere hlinks hname hnone h here
  rw [resolveFrom_eq, hnowhere]

/-! Where paths lead depends only on what kind of node stands at each place. -/

inductive Kind
  | file
  | directory (searchable : Bool)
  | link (target : Path)
  deriving DecidableEq

def kind : FileNode → Kind
  | .file _ _ => .file
  | .directory info _ => .directory info.searchable
  | .link target => .link target

def SameKinds (a b : FileNode) : Prop :=
  ∀ location, (a.at? location).map kind = (b.at? location).map kind

variable {a b : FileNode}

theorem barrier?_congr {a? b? : Option FileNode} (h : a?.map kind = b?.map kind)
    (segment : OsText) : barrier? segment a? = barrier? segment b? := by
  rcases a? with _ | (_ | _ | _) <;> rcases b? with _ | (_ | _ | _) <;>
    simp [kind] at h <;> simp [barrier?, h]

theorem barrier?_eq_none_iff {segment : OsText} {node? : Option FileNode} :
    barrier? segment node? = none ↔ ∃ info entries, node? = some (.directory info entries) ∧
      (segment = "" ∨ info.searchable = true) := by
  rcases node? with _ | (_ | ⟨info, entries⟩ | _) <;> simp [barrier?, Decidable.or_iff_not_imp_left]

theorem advance_cons (root : FileNode) (here : Location) (segment : OsText) (rest : List OsText) :
    root.advance here (segment :: rest) =
      match barrier? segment (root.at? here) with
      | some fault => .nowhere fault
      | none =>
        if segment = "" || segment = "." then root.advance here rest
        else if segment = ".." then root.advance here.dropLast rest
        else match (root.at? (here ++ [segment])).map kind with
          | none => .nowhere .noSuchFile
          | some (.link target) => .met here target rest
          | some _ => root.advance (here ++ [segment]) rest := by
  rw [advance]
  rcases root.at? (here ++ [segment]) with _ | (_ | _ | _) <;> rfl

theorem advance_congr (h : SameKinds a b) (here : Location) (segments : List OsText) :
    a.advance here segments = b.advance here segments := by
  induction segments generalizing here with
  | nil => rfl
  | cons segment rest ih =>
    rw [advance_cons, advance_cons, barrier?_congr (h here), h (here ++ [segment])]
    simp only [ih]

theorem followFrom_congr (h : SameKinds a b) (links : Nat) (here : Location)
    (segments : List OsText) : a.followFrom links here segments = b.followFrom links here segments := by
  induction links generalizing here segments with
  | zero =>
    unfold followFrom
    rw [advance_congr h]
  | succ links ih =>
    unfold followFrom
    rw [advance_congr h]
    simp only [ih]

theorem put_file {place : Location} {root : FileNode} {content : Option ByteArray} {modified : Int}
    (h : root.at? place = some (.file content modified)) (new : Option ByteArray) (time : Int) :
    (put (.file new time) place root).at? place = some (.file new time) ∧
      SameKinds (put (.file new time) place root) root := by
  induction place generalizing root with
  | nil =>
    cases Option.some.inj h
    refine ⟨rfl, fun location => ?_⟩
    cases location <;> rfl
  | cons name rest ih =>
    obtain ⟨child, hchild, hrest⟩ := Option.bind_eq_some_iff.1 h
    cases root with
    | file | link => cases hchild
    | directory info entries =>
      have hget : Keyed.get? name entries = some child := hchild
      obtain ⟨hplace, hkinds⟩ := ih hrest
      have hput : put (.file new time) (name :: rest) (.directory info entries) =
          .directory info (Keyed.insert name (put (.file new time) rest child) entries) := by
        simp only [put, hget, Option.getD_some]
      rw [hput]
      constructor
      · simp only [at?, entry?, Keyed.get?_insert, if_true]
        exact hplace
      · intro location
        cases location with
        | nil => rfl
        | cons other below =>
          simp only [at?, entry?, Keyed.get?_insert]
          split
          · next hother =>
            subst hother
            rw [hget]
            exact hkinds below
          · rfl

end FileNode

namespace FileTree

theorem splitOn_intercalate_slash {names : Location} (hn : names.Named) (hne : names ≠ []) :
    (OsText.intercalate "/" names).bytes.splitOn Path.slash = names.map OsText.bytes := by
  change ([Path.slash].intercalate _).splitOn Path.slash = _
  apply List.splitOn_intercalate
  · intro bytes hbytes
    obtain ⟨name, hname, rfl⟩ := List.mem_map.1 hbytes
    exact (hn name hname).2.2.2.1
  · simpa using hne

theorem intercalate_slash_inj {a b : Location} (ha : a.Named) (hb : b.Named) (hane : a ≠ [])
    (hbne : b ≠ []) (h : OsText.intercalate "/" a = OsText.intercalate "/" b) : a = b := by
  have heq : a.map OsText.bytes = b.map OsText.bytes := by
    rw [← splitOn_intercalate_slash ha hane, ← splitOn_intercalate_slash hb hbne, h]
  exact (List.map_inj_right fun _ _ => OsText.bytes_inj.1).1 heq

theorem intercalate_ne_empty {names : Location} (hn : names.Named) (hne : names ≠ []) :
    OsText.intercalate "/" names ≠ "" := by
  intro h
  have hsplit := splitOn_intercalate_slash hn hne
  rw [h] at hsplit
  obtain ⟨name, rest, rfl⟩ := List.exists_cons_of_ne_nil hne
  have hname : name.bytes = [] := (List.cons.inj hsplit).1.symm
  exact (hn name List.mem_cons_self).1 (OsText.bytes_inj.1 hname)

theorem pathOf_inj {a b : Location} (ha : a.Named) (hb : b.Named) : pathOf a = pathOf b ↔ a = b := by
  refine ⟨fun h => ?_, fun h => h ▸ rfl⟩
  have htext : OsText.intercalate "/" a = OsText.intercalate "/" b :=
    (OsText.append_right_inj _).1 (congrArg Path.raw h)
  by_cases hane : a = []
  · by_cases hbne : b = []
    · rw [hane, hbne]
    · subst hane
      exact absurd htext.symm (intercalate_ne_empty hb hbne)
  · by_cases hbne : b = []
    · subst hbne
      exact absurd htext (intercalate_ne_empty ha hane)
    · exact intercalate_slash_inj ha hb hane hbne htext

theorem modified?_eq_some_iff {t : FileTree} {path : Path} {modified : Nat} :
    t.modified? path = some modified ↔
      ∃ place node, t.resolve path = some place ∧ t.root.at? place = some node ∧
        node.time? = some (modified : Int) := by
  unfold modified? node?
  constructor
  · intro h
    split at h
    · next time htime =>
      obtain ⟨node, hnode, htime⟩ := Option.bind_eq_some_iff.1 htime
      obtain ⟨place, hplace, hat⟩ := Option.bind_eq_some_iff.1 hnode
      split at h
      · have heq : time = modified := by
          have := Option.some.inj h
          omega
        exact ⟨place, node, hplace, hat, heq ▸ htime⟩
      · cases h
    · cases h
  · rintro ⟨place, node, hplace, hat, htime⟩
    rw [hplace, Option.bind_some, hat, Option.bind_some, htime]
    simp

theorem modified?_eq_of_resolve {t : FileTree} {p q : Path} (h : t.resolve p = t.resolve q) :
    t.modified? p = t.modified? q := by
  unfold modified? node?
  rw [h]

theorem follow_eq_ok_iff {t : FileTree} {path : Path} {place : Location} :
    t.follow path = .ok place ↔ t.resolve path = some place := by
  unfold resolve
  cases t.follow path <;> simp [Except.toOption]

theorem follow_congr {s t : FileTree} (hkinds : FileNode.SameKinds s.root t.root)
    (hhere : s.here = t.here) (path : Path) : s.follow path = t.follow path := by
  unfold follow startOf
  rw [hhere, FileNode.followFrom_congr hkinds]

theorem resolve_congr {s t : FileTree} (hkinds : FileNode.SameKinds s.root t.root)
    (hhere : s.here = t.here) (path : Path) : s.resolve path = t.resolve path :=
  congrArg Except.toOption (follow_congr hkinds hhere path)

theorem read_of_at? {t : FileTree} {path : Path} {place : Location} {node : FileNode}
    (hplace : t.resolve path = some place) (hat : t.root.at? place = some node) :
    t.read path = node.read := by
  unfold read
  simp only [follow_eq_ok_iff.2 hplace, bind, Except.bind, hat]

theorem read_eq_of_resolve {t : FileTree} {p q : Path} {place : Location}
    (hp : t.resolve p = some place) (hq : t.resolve q = some place) : t.read p = t.read q := by
  unfold read
  rw [follow_eq_ok_iff.2 hp, follow_eq_ok_iff.2 hq]

theorem put_file {t : FileTree} {place : Location} {content : Option ByteArray} {modified : Int}
    (h : t.root.at? place = some (.file content modified)) (new : Option ByteArray) (time : Int) :
    (t.put place (.file new time) trivial).root.at? place = some (.file new time) ∧
      ∀ path, (t.put place (.file new time) trivial).resolve path = t.resolve path := by
  have hnamed := FileNode.named_of_at? t.wellFormed h
  obtain ⟨hplace, hkinds⟩ := FileNode.put_file h new time
  unfold put
  rw [dif_pos hnamed]
  refine ⟨hplace, fun path => resolve_congr ?_ ?_ path⟩
  · exact hkinds
  · rfl

def single (name : OsText) (content : ByteArray) (modified : Int) (named : IsName name := by decide) :
    FileTree where
  root := .directory {} [(name, .file (some content) modified)]
  wellFormed := by simp [FileNode.WellFormed, FileNode.WellFormedEntries, Keyed.Ordered, named]
  here := []
  named := by simp [Location.Named]

theorem at?_single {name : OsText} {content : ByteArray} {modified : Int} {named : IsName name}
    {location : Location} {node : FileNode} :
    (single name content modified named).root.at? location = some node ↔
      (location = [] ∧ node = .directory {} [(name, .file (some content) modified)]) ∨
        (location = [name] ∧ node = .file (some content) modified) := by
  change (FileNode.directory {} [(name, .file (some content) modified)]).at? location = some node ↔ _
  cases location with
  | nil => simp [FileNode.at?, eq_comm]
  | cons first rest =>
    by_cases hfirst : name = first
    · subst hfirst
      cases rest with
      | nil => simp [FileNode.at?, FileNode.entry?, Keyed.get?, eq_comm]
      | cons second rest => simp [FileNode.at?, FileNode.entry?, Keyed.get?]
    · simp [FileNode.at?, FileNode.entry?, Keyed.get?, hfirst, Ne.symm hfirst]

theorem resolve_single_eq_none {name : OsText} {content : ByteArray} {modified : Int}
    {named : IsName name} {path : Path} {segment : OsText} (h : segment ∈ path.segments)
    (hname : segment ≠ "" ∧ segment ≠ "." ∧ segment ≠ "..") (hne : segment ≠ name) :
    (single name content modified named).resolve path = none := by
  rw [resolve_eq]
  split
  · rfl
  · apply FileNode.resolveFrom_eq_none _ hname _ h
    · intro location target hlink
      rcases at?_single.1 hlink with ⟨-, hnode⟩ | ⟨-, hnode⟩ <;> cases hnode
    · intro location
      rw [Option.eq_none_iff_forall_ne_some]
      intro node hnode
      rcases at?_single.1 hnode with ⟨hlocation, -⟩ | ⟨hlocation, -⟩
      · simp at hlocation
      · apply hne
        simpa using congrArg List.getLast? hlocation

end FileTree

end PluginHost
