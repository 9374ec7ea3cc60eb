import PluginHost.Proofs.FileTree.Removal

/-!
Spellings of a path. Two paths whose components agree lead to the same place, where both lead
anywhere.
-/
namespace PluginHost

namespace FileNode

variable {root : FileNode} {here place : Location} {segments thin : List OsText}

/-- Segments with some of those left out that stay where they are. -/
inductive Thinned : List OsText → List OsText → Prop
  | nil : Thinned [] []
  | drop {segment : OsText} {rest thin : List OsText} (stays : segment = "" ∨ segment = ".")
      (more : Thinned rest thin) : Thinned (segment :: rest) thin
  | keep (segment : OsText) {rest thin : List OsText} (more : Thinned rest thin) :
      Thinned (segment :: rest) (segment :: thin)

theorem Thinned.append_left (before : List OsText) (h : Thinned segments thin) :
    Thinned (before ++ segments) (before ++ thin) := by
  induction before with
  | nil => exact h
  | cons segment before ih => exact .keep segment ih

theorem Thinned.advance (h : Thinned segments thin) (root : FileNode) (here : Location) :
    (∀ place, root.advance here segments = .arrived place →
      root.advance here thin = .arrived place) ∧
    ∀ base target rest, root.advance here segments = .met base target rest →
      ∃ rest', Thinned rest rest' ∧ root.advance here thin = .met base target rest' := by
  induction h generalizing here with
  | nil => exact ⟨fun _ => id, nofun⟩
  | @drop segment rest thin stays more ih =>
    have hstays : (segment = "" || segment = ".") = true := by simpa using stays
    rw [advance_cons]
    split
    · exact ⟨nofun, nofun⟩
    · rw [if_pos hstays]
      exact ih here
  | @keep segment rest thin more ih =>
    rw [advance_cons, advance_cons]
    split
    · exact ⟨nofun, nofun⟩
    · split
      · exact ih here
      · split
        · exact ih here.dropLast
        · split
          · exact ⟨nofun, nofun⟩
          · refine ⟨nofun, ?_⟩
            rintro _ _ _ ⟨⟩
            exact ⟨thin, more, rfl⟩
          · exact ih (here ++ [segment])

theorem Thinned.resolveFrom (h : Thinned segments thin) (links : Nat)
    (hplace : root.resolveFrom links here segments = some place) :
    root.resolveFrom links here thin = some place := by
  induction links generalizing here segments thin with
  | zero =>
    obtain ⟨harrived, -⟩ := h.advance root here
    rw [resolveFrom_eq] at hplace ⊢
    split at hplace
    · next location hway => rw [harrived location hway]; exact hplace
    · next heq => cases heq
    · cases hplace
  | succ links ih =>
    obtain ⟨harrived, hmet⟩ := h.advance root here
    rw [resolveFrom_eq] at hplace ⊢
    split at hplace
    · next location hway => rw [harrived location hway]; exact hplace
    · next base target rest _ hway heq =>
      cases heq
      obtain ⟨rest', hrest, hthin⟩ := hmet base target rest hway
      rw [hthin]
      exact ih (hrest.append_left target.segments) hplace
    · cases hplace

end FileNode

namespace Path

/-- The segments that do not stay where they are. -/
def moves (p : Path) : List OsText := p.segments.filter fun s : OsText => !(s = "" || s = ".")

theorem thinned_moves (p : Path) : FileNode.Thinned p.segments p.moves := by
  unfold moves
  induction p.segments with
  | nil => exact .nil
  | cons segment rest ih =>
    by_cases hstays : (segment = "" || segment = ".") = true
    · rw [List.filter_cons_of_neg (by simp [hstays])]
      exact .drop (by simpa using hstays) ih
    · rw [List.filter_cons_of_pos (by simp [hstays])]
      exact .keep segment ih

def moveOf? : Component → Option OsText
  | .root | .here => none
  | .parent => some (.ofString "..")
  | .name s => some s

theorem moves_eq_filterMap_components (p : Path) : p.moves = p.components.filterMap moveOf? := by
  have hinner : ∀ segments : List OsText,
      (segments.filterMap component?).filterMap moveOf? =
        segments.filter fun s : OsText => !(s = "" || s = ".") := by
    intro segments
    induction segments with
    | nil => rfl
    | cons s rest ih =>
      by_cases hstays : (s = "" || s = ".") = true
      · rw [List.filterMap_cons_none (by simp only [component?, hstays, if_true]), ih,
          List.filter_cons_of_neg (by simp [hstays])]
      · have hmove : ∃ c, component? s = some c ∧ moveOf? c = some s := by
          unfold component?
          rw [if_neg hstays]
          split
          · next hparent => exact ⟨.parent, rfl, hparent ▸ rfl⟩
          · exact ⟨.name s, rfl, rfl⟩
        obtain ⟨c, hc, hs⟩ := hmove
        rw [List.filterMap_cons_some hc, List.filterMap_cons_some hs, ih,
          List.filter_cons_of_pos (by simp [hstays])]
  rw [components_eq]
  unfold moves componentsOf
  split
  · rw [List.filterMap_cons, ← hinner]
    rfl
  · split
    · next hdot =>
      obtain ⟨rest, hsegments⟩ := List.head?_eq_some_iff.1 hdot
      rw [hsegments, List.tail_cons, List.filterMap_cons, ← hinner]
      rfl
    · rw [hinner]

theorem isAbsolute_iff_root_mem {p : Path} : p.isAbsolute = true ↔ .root ∈ p.components := by
  have hinner : ∀ segments : List OsText, .root ∉ segments.filterMap component? := by
    intro segments hroot
    obtain ⟨s, -, hs⟩ := List.mem_filterMap.1 hroot
    unfold component? at hs
    split at hs
    · cases hs
    · split at hs <;> cases hs
  rw [components_eq]
  unfold componentsOf
  split
  · next habsolute => simp [habsolute]
  · next hrelative =>
    split
    · simp [hrelative, hinner]
    · simp [hrelative, hinner]

end Path

namespace FileTree

variable {t : FileTree} {p q : Path} {place other : Location}

theorem raw_ne_empty_of_resolve (h : t.resolve p = some place) : p.raw ≠ "" := by
  rintro hempty
  rw [resolve_eq, if_pos hempty] at h
  cases h

theorem resolveFrom_moves (h : t.resolve p = some place) :
    t.root.resolveFrom linkLimit (t.startOf p) p.moves = some place := by
  have hraw := raw_ne_empty_of_resolve h
  rw [resolve_eq, if_neg hraw] at h
  exact p.thinned_moves.resolveFrom linkLimit h

theorem place_eq_of_same (hsame : p.components = q.components) (hp : t.resolve p = some place)
    (hq : t.resolve q = some other) : place = other := by
  have hmoves : p.moves = q.moves := by
    rw [Path.moves_eq_filterMap_components, Path.moves_eq_filterMap_components, hsame]
  have habsolute : p.isAbsolute = q.isAbsolute := by
    rw [Bool.eq_iff_iff, Path.isAbsolute_iff_root_mem, Path.isAbsolute_iff_root_mem, hsame]
  have hstart : t.startOf p = t.startOf q := by
    unfold startOf
    rw [habsolute]
  have hfrom := resolveFrom_moves hp
  rw [hmoves, hstart, resolveFrom_moves hq] at hfrom
  exact (Option.some.inj hfrom).symm

end FileTree

end PluginHost
