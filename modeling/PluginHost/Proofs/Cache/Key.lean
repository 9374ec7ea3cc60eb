import PluginHost.Cache
import PluginHost.Proofs.FileTree
import PluginHost.Proofs.Path

/-!
Keys of the store. Within one namespace all paths that lead to a place have one key. It tells places
apart that are shown differently, which all are whose names are in UTF-8. Keys of two namespaces are
told apart by their suffixes only as far as no suffix goes on like the other after a colon.
-/
namespace PluginHost

namespace DefinitionCache

/-- The text that stands for a path in its key. -/
def shown (files : FileTree) (path : Path) : String := ((files.canonical path).getD path).text

theorem keyOf_eq (suffix : String) (files : FileTree) (path : Path) :
    keyOf suffix files path = keyStart ++ ":" ++ (suffix ++ ":" ++ shown files path) := by
  apply String.toList_injective
  simp [keyOf, namespaceOf, shown, toString]

theorem keyOf_eq_iff {s₁ s₂ : String} {files₁ files₂ : FileTree} {p q : Path} :
    keyOf s₁ files₁ p = keyOf s₂ files₂ q ↔
      s₁ ++ ":" ++ shown files₁ p = s₂ ++ ":" ++ shown files₂ q := by
  rw [keyOf_eq, keyOf_eq]
  exact String.append_right_inj _

theorem shown_of_lost {files : FileTree} {path : Path} (h : files.resolve path = none) :
    shown files path = path.text := by
  unfold shown FileTree.canonical
  rw [h]
  rfl

/-- The key of every path that leads to a place. -/
def keyAt (suffix : String) (place : Location) : String :=
  s!"{namespaceOf suffix}:{(FileTree.pathOf place).text}"

theorem keyOf_of_resolve {suffix : String} {files : FileTree} {path : Path} {place : Location}
    (h : files.resolve path = some place) : keyOf suffix files path = keyAt suffix place := by
  unfold keyOf keyAt FileTree.canonical
  rw [h]
  rfl

theorem keyAt_eq_iff {suffix : String} {a b : Location} :
    keyAt suffix a = keyAt suffix b ↔ (FileTree.pathOf a).ShownAlike (FileTree.pathOf b) := by
  rw [Path.shownAlike_iff]
  simp [keyAt, toString]

/-- No two of these places have one key. -/
def KeysApart (suffix : String) (places : Location → Prop) : Prop :=
  ∀ a b, places a → places b → keyAt suffix a = keyAt suffix b → a = b

theorem keysApart_of_inUtf8 {suffix : String} {places : Location → Prop}
    (hnamed : ∀ place, places place → place.Named)
    (h : ∀ place, places place → ∀ name ∈ place, name.InUtf8) : KeysApart suffix places := by
  intro a b ha hb hkey
  have hshown : ∀ place, places place → (FileTree.pathOf place).raw.InUtf8 := fun place hplace =>
    OsText.InUtf8.append ⟨_, rfl⟩ (OsText.inUtf8_intercalate ⟨_, rfl⟩ (h place hplace))
  refine (FileTree.pathOf_inj (hnamed a ha) (hnamed b hb)).1 ?_
  exact (keyAt_eq_iff.1 hkey).resolve_right fun h => h.2 ⟨hshown a ha, hshown b hb⟩

/-! Two files that are shown alike. -/

def twin (byte : UInt8) : Location := ["d", ⟨[byte]⟩, "a.yml"]

def twinFiles (first second : ByteArray) (firstTime secondTime : Int) : FileTree :=
  FileTree.bare
    |>.put (twin 0xFE) (.file (some first) firstTime) trivial
    |>.put (twin 0xFF) (.file (some second) secondTime) trivial

end DefinitionCache

end PluginHost
