import PluginHost.Fault
import PluginHost.FileTree
import PluginHost.Proofs.OsText
import PluginHost.Proofs.Text.Split

/-!
Paths below a directory. A path is lengthened by names; its components are then those of the
directory and the names, however the directory's path is written.
-/
namespace PluginHost

namespace Path

def component? (segment : OsText) : Option Component :=
  if segment = "" || segment = "." then none
  else if segment = ".." then some .parent else some (.name segment)

def componentsOf (absolute : Bool) (segments : List OsText) : List Component :=
  if absolute then .root :: segments.filterMap component?
  else if segments.head? = some (.ofString ".") then .here :: segments.tail.filterMap component?
  else segments.filterMap component?

theorem components_eq (p : Path) : p.components = componentsOf p.isAbsolute p.segments := rfl

/-- Only the first segment of a path is read in another way than the others. -/
theorem componentsOf_concat {segments : List OsText} (h : segments ≠ []) (absolute : Bool)
    (segment : OsText) :
    componentsOf absolute (segments ++ [segment]) =
      componentsOf absolute segments ++ (component? segment).toList := by
  have hlast : [segment].filterMap component? = (component? segment).toList := by
    cases hc : component? segment <;> simp [hc]
  obtain ⟨first, rest, rfl⟩ := List.exists_cons_of_ne_nil h
  unfold componentsOf
  cases absolute with
  | true => rw [if_pos rfl, if_pos rfl, List.filterMap_append, hlast, List.cons_append]
  | false =>
    have hhead : (first :: rest ++ [segment]).head? = (first :: rest).head? := rfl
    have htail : (first :: rest ++ [segment]).tail = (first :: rest).tail ++ [segment] := rfl
    rw [if_neg Bool.false_ne_true, if_neg Bool.false_ne_true, hhead, htail,
      List.filterMap_append, List.filterMap_append, hlast]
    split <;> rfl

theorem component?_name {name : OsText} (h : IsName name) : component? name = some (.name name) := by
  obtain ⟨hempty, hdot, hparent, -⟩ := h
  simp [component?, hempty, hdot, hparent]

theorem bytes_ne_nil {text : OsText} (h : text ≠ "") : text.bytes ≠ [] := fun hnil =>
  h (OsText.bytes_inj.1 hnil)

theorem isAbsolute_append {a : OsText} (h : a ≠ "") (b : OsText) :
    (Path.mk (a ++ b)).isAbsolute = (Path.mk a).isAbsolute := by
  obtain ⟨first, rest, hbytes⟩ := List.exists_cons_of_ne_nil (bytes_ne_nil h)
  simp only [isAbsolute, OsText.bytes_append, hbytes, List.cons_append, List.head?_cons]

theorem isAbsolute_name {name : OsText} (h : IsName name) : (Path.mk name).isAbsolute = false := by
  unfold isAbsolute
  rw [decide_eq_false_iff_not]
  exact fun hslash => h.2.2.2.1 (List.mem_of_head? hslash)

theorem segments_ne_nil (p : Path) : p.segments ≠ [] := by
  unfold segments
  simpa using Text.splitAll_ne_nil slash p.raw.bytes

variable {p : Path}

/-- A name is one more segment; the empty one after a closing slash gives way to it. -/
theorem segments_child {name : OsText} (hp : p.raw ≠ "") (h : IsName name) :
    ∃ segments closing, segments ≠ [] ∧ (closing = [] ∨ closing = [(.ofString "")]) ∧
      p.segments = segments ++ closing ∧ (p.child name).segments = segments ++ [name] := by
  have hname : Text.splitAll slash name.bytes = [name.bytes] :=
    Text.splitAll_eq_singleton h.2.2.2.1
  unfold child join
  rw [isAbsolute_name h]
  simp only [Bool.false_eq_true, if_false, bytes_ne_nil hp, decide_false, Bool.false_or]
  split
  · next hslash =>
    obtain ⟨before, hbefore⟩ := List.getLast?_eq_some_iff.1 (of_decide_eq_true hslash)
    refine ⟨(Text.splitAll slash before).map OsText.mk, [(.ofString "")], ?_, .inr rfl, ?_, ?_⟩
    · simpa using Text.splitAll_ne_nil slash before
    · unfold segments
      rw [hbefore, Text.splitAll_append_sep, List.map_append]
      rfl
    · unfold segments
      rw [OsText.bytes_append, hbefore, List.append_assoc, List.singleton_append,
        Text.splitAll_append_sep, List.map_append, hname]
      rfl
  · refine ⟨p.segments, [], p.segments_ne_nil, .inl rfl, (List.append_nil _).symm, ?_⟩
    unfold segments
    rw [OsText.append_assoc, OsText.bytes_append]
    change List.map _ (Text.splitAll slash (p.raw.bytes ++ slash :: name.bytes)) = _
    rw [Text.splitAll_append_sep, List.map_append, hname]
    rfl

theorem isAbsolute_child {name : OsText} (hp : p.raw ≠ "") (h : IsName name) :
    (p.child name).isAbsolute = p.isAbsolute := by
  unfold child join
  rw [isAbsolute_name h]
  simp only [Bool.false_eq_true, if_false]
  split
  · exact isAbsolute_append hp _
  · rw [OsText.append_assoc]
    exact isAbsolute_append hp _

theorem raw_child_ne_empty {name : OsText} (h : IsName name) : (p.child name).raw ≠ "" := by
  have hname := bytes_ne_nil h.1
  unfold child join
  rw [isAbsolute_name h]
  simp only [Bool.false_eq_true, if_false]
  intro hempty
  have hnil := congrArg OsText.bytes hempty
  split at hnil <;> exact hname (List.append_eq_nil_iff.1 hnil).2

theorem components_child {name : OsText} (hp : p.raw ≠ "") (h : IsName name) :
    (p.child name).components = p.components ++ [.name name] := by
  obtain ⟨segments, closing, hne, hclosing, hp', hchild⟩ := segments_child hp h
  rw [components_eq, components_eq, isAbsolute_child hp h, hp', hchild, componentsOf_concat hne,
    component?_name h]
  rcases hclosing with rfl | rfl
  · rw [List.append_nil]
    rfl
  · rw [componentsOf_concat hne, show component? (.ofString "") = none from rfl, Option.toList_none,
      List.append_nil]
    rfl

def below (dir : Path) (names : Location) : Path := names.foldl child dir

theorem components_below {dir : Path} {names : Location} (hdir : dir.raw ≠ "") (h : names.Named) :
    (dir.below names).components = dir.components ++ names.map .name := by
  induction names generalizing dir with
  | nil => exact (List.append_nil _).symm
  | cons name rest ih =>
    obtain ⟨hname, hrest⟩ := List.forall_mem_cons.1 h
    have hbelow := ih (raw_child_ne_empty (p := dir) hname) hrest
    change ((dir.child name).below rest).components = _
    rw [hbelow, components_child hdir hname, List.append_assoc]
    rfl

theorem eq_of_same_below {dir : Path} {names others : Location} (hdir : dir.raw ≠ "")
    (hnames : names.Named) (hothers : others.Named)
    (h : (dir.below names).components = (dir.below others).components) : names = others := by
  rw [components_below hdir hnames, components_below hdir hothers] at h
  exact (List.map_inj_right fun _ _ => Component.name.inj).1 (List.append_cancel_left h)

theorem written_eq_ok_iff {p : Path} {text : String} : p.written = .ok text ↔ p = .ofString text := by
  have hutf8 : p.utf8? = some text ↔ p = .ofString text := by
    rw [show p.utf8? = p.raw.utf8? from rfl, OsText.utf8?_eq_some_iff]
    exact ⟨congrArg Path.mk, congrArg Path.raw⟩
  rw [← hutf8]
  unfold written
  cases p.utf8? <;> simp [pure, Except.pure, throw, throwThe, MonadExceptOf.throw]

theorem exists_written_iff {p : Path} : (∃ text, p.written = .ok text) ↔ p.raw.InUtf8 :=
  exists_congr fun _ => written_eq_ok_iff.trans ⟨congrArg Path.raw, congrArg Path.mk⟩

/-- The paths are the same, or one of them is not in UTF-8 and the other one is shown like it. -/
def ShownAlike (p q : Path) : Prop := p = q ∨ p.text = q.text ∧ ¬(p.raw.InUtf8 ∧ q.raw.InUtf8)

theorem shownAlike_iff {p q : Path} : p.ShownAlike q ↔ p.text = q.text := by
  constructor
  · rintro (rfl | ⟨htext, -⟩)
    · rfl
    · exact htext
  · intro htext
    by_cases hutf8 : p.raw.InUtf8 ∧ q.raw.InUtf8
    · exact .inl (congrArg Path.mk (hutf8.1.eq_of_display_eq hutf8.2 htext))
    · exact .inr ⟨htext, hutf8⟩

end Path

end PluginHost
