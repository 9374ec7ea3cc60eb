import PluginHost.Scan

/-!
What a scan finds. No two of its files have paths that agree.
-/
namespace PluginHost

theorem Path.same_iff {p q : Path} : p.same q = true ↔ p.components = q.components := by
  simp [Path.same]

theorem Path.same_refl (p : Path) : p.same p = true := Path.same_iff.2 rfl

theorem Path.same_symm {p q : Path} (h : p.same q = true) : q.same p = true :=
  Path.same_iff.2 (Path.same_iff.1 h).symm

theorem Path.same_trans {p q r : Path} (hpq : p.same q = true) (hqr : q.same r = true) :
    p.same r = true :=
  Path.same_iff.2 ((Path.same_iff.1 hpq).trans (Path.same_iff.1 hqr))

namespace ScanResult

theorem mem_of_mem_keepLast {f : ScannedFile} {found : ScanResult} (h : f ∈ keepLast found) :
    f ∈ found := by
  induction found with
  | nil => exact h
  | cons g rest ih =>
    unfold keepLast at h
    split at h
    · exact List.mem_cons_of_mem _ (ih h)
    · rcases List.mem_cons.1 h with rfl | h
      · exact List.mem_cons_self
      · exact List.mem_cons_of_mem _ (ih h)

def PathsDiffer (found : ScanResult) : Prop :=
  List.Pairwise (fun f g => f.path.same g.path ≠ true) found

theorem PathsDiffer.eq_of_same {f g : ScannedFile} {found : ScanResult} (h : PathsDiffer found)
    (hf : f ∈ found) (hg : g ∈ found) (hsame : f.path.same g.path = true) : f = g := by
  induction h with
  | nil => cases hf
  | cons hfirst _ ih =>
    rcases List.mem_cons.1 hf with rfl | hfrest
    · rcases List.mem_cons.1 hg with rfl | hgrest
      · rfl
      · exact absurd hsame (hfirst g hgrest)
    · rcases List.mem_cons.1 hg with rfl | hgrest
      · exact absurd (Path.same_symm hsame) (hfirst f hfrest)
      · exact ih hfrest hgrest

theorem pathsDiffer_keepLast (found : ScanResult) : PathsDiffer (keepLast found) := by
  induction found with
  | nil => exact List.Pairwise.nil
  | cons f rest ih =>
    unfold keepLast
    split
    · exact ih
    · next hlast =>
      refine List.pairwise_cons.2 ⟨fun g hg hsame => hlast (List.any_eq_true.2 ⟨g, ?_, ?_⟩), ih⟩
      · exact mem_of_mem_keepLast hg
      · exact Path.same_symm hsame

end ScanResult

namespace Scanner

variable {s : Scanner} {files : FileTree} {directories : DirectorySet}

theorem pathsDiffer_scan (s : Scanner) (files : FileTree) (directories : DirectorySet) :
    (s.scan files directories).value.PathsDiffer := by
  have hkept := ScanResult.pathsDiffer_keepLast (s.scanAll files directories.positions).value
  have hvalue : (s.scan files directories).value =
      (s.applyExclude (s.scanAll files directories.positions).value.keepLast).value := rfl
  rw [hvalue]
  unfold applyExclude
  split
  · exact hkept
  · exact hkept.filter _

theorem eq_of_same_of_mem_scan {f g : ScannedFile} (hf : f ∈ (s.scan files directories).value)
    (hg : g ∈ (s.scan files directories).value) (h : f.path.same g.path = true) : f = g :=
  (pathsDiffer_scan s files directories).eq_of_same hf hg h

end Scanner

end PluginHost
