import PluginHost.Proofs.FileTree
import PluginHost.Proofs.Path

/-!
Taking a file away and making it again. The paths that led to the file lead nowhere once it is gone,
all others lead where they led, and after a file is put in its place they all lead there again.
-/
namespace PluginHost

namespace FileNode

variable {root : FileNode} {place : Location} {content : Option ByteArray}
  {modified : Int}

theorem put_remove (new : FileNode) (h : root.WellFormed) :
    put new place (remove place root) = put new place root := by
  fun_induction remove place root with
  | case1 name info entries =>
    unfold WellFormed at h
    simp only [put]
    rw [Keyed.insert_erase h.1]
  | case2 name rest info entries _ child hchild ih =>
    unfold WellFormed at h
    simp only [put, hchild, Keyed.get?_insert, if_true, Option.getD_some, ih (of_get? h.2 hchild).2]
    rw [Keyed.insert_insert h.1]
  | case3 => rfl
  | case4 => rfl

theorem at?_below_file (h : root.at? place = some (.file content modified)) {below : Location}
    (hbelow : below ≠ []) : root.at? (place ++ below) = none := by
  induction place generalizing root with
  | nil =>
    cases Option.some.inj h
    cases below with
    | nil => exact absurd rfl hbelow
    | cons => rfl
  | cons name rest ih =>
    obtain ⟨child, hchild, hrest⟩ := Option.bind_eq_some_iff.1 h
    simp only [List.cons_append, at?, hchild, Option.bind_some]
    exact ih hrest

theorem kind_at?_remove (hroot : root.WellFormed)
    (h : root.at? place = some (.file content modified)) (hplace : place ≠ []) (location : Location) :
    ((remove place root).at? location).map kind =
      if location = place then none else (root.at? location).map kind := by
  fun_induction remove place root generalizing location with
  | case1 name info entries =>
    unfold WellFormed at hroot
    cases location with
    | nil => rfl
    | cons other below =>
      simp only [at?, entry?, Keyed.get?_erase hroot.1]
      split
      · next hother =>
        subst hother
        split
        · rfl
        · next hbelow =>
          have hnone := at?_below_file h (by simpa using hbelow)
          exact (congrArg (Option.map kind) hnone).symm
      · next hother => simp [Ne.symm hother]
  | case2 name rest info entries hrest child hchild ih =>
    unfold WellFormed at hroot
    have hfile : child.at? rest = some (.file content modified) := by
      simpa only [at?, entry?, hchild, Option.bind_some] using h
    cases location with
    | nil => rfl
    | cons other below =>
      simp only [at?, entry?, Keyed.get?_insert]
      split
      · next hother =>
        subst hother
        simpa [hchild] using ih (of_get? hroot.2 hchild).2 hfile (by simpa using hrest) below
      · next hother => simp [Ne.symm hother]
  | case3 name rest info entries hrest hchild =>
    simp [at?, entry?, hchild] at h
  | case4 place node hfirst hrest =>
    cases place with
    | nil => exact absurd rfl hplace
    | cons name rest =>
      cases node with
      | file | link => cases h
      | directory info entries => exact absurd rfl (hrest name rest info entries rfl)

theorem advance_from_file (h : root.at? place = some (.file content modified)) (segment : OsText)
    (rest : List OsText) : root.advance place (segment :: rest) = .nowhere .notDirectory := by
  rw [advance_cons, h]
  rfl

theorem directory_of_met {here base : Location} {target : Path} {segments rest : List OsText}
    (h : root.advance here segments = .met base target rest) :
    ∃ info entries, root.at? base = some (.directory info entries) := by
  induction segments generalizing here with
  | nil => cases h
  | cons segment segments ih =>
    rw [advance_cons] at h
    split at h
    · cases h
    · next hhere =>
      split at h
      · exact ih h
      · split at h
        · exact ih h
        · split at h
          · cases h
          · cases h
            obtain ⟨info, entries, hdirectory, -⟩ := barrier?_eq_none_iff.1 hhere
            exact ⟨info, entries, hdirectory⟩
          · exact ih h

/-- The second walk goes like the first, but leads nowhere where that one ends at the place. -/
inductive Advance.Avoids (place : Location) : Advance → Advance → Prop
  | ended (fault : ReadFault) : Avoids place (.arrived place) (.nowhere fault)
  | arrived {location : Location} (h : location ≠ place) :
      Avoids place (.arrived location) (.arrived location)
  | met (base : Location) (target : Path) (rest : List OsText) :
      Avoids place (.met base target rest) (.met base target rest)
  | nowhere (fault other : ReadFault) : Avoids place (.nowhere fault) (.nowhere other)

theorem advance_remove (hroot : root.WellFormed)
    (h : root.at? place = some (.file content modified)) (hplace : place ≠ []) {here : Location}
    (hhere : here ≠ place) (segments : List OsText) :
    Advance.Avoids place (root.advance here segments) ((remove place root).advance here segments) := by
  have hkind := kind_at?_remove hroot h hplace
  induction segments generalizing here with
  | nil => exact .arrived hhere
  | cons segment rest ih =>
    have hbarrier : barrier? segment ((remove place root).at? here) =
        barrier? segment (root.at? here) :=
      barrier?_congr ((hkind here).trans (if_neg hhere)) segment
    rw [advance_cons, advance_cons, hbarrier, hkind (here ++ [segment])]
    split
    · exact .nowhere _ _
    · next hopen =>
      split
      · exact ih hhere
      · split
        · apply ih
          rintro rfl
          -- the place would be a file with a directory in it
          have hne : here ≠ [] := fun hnil => hplace (by rw [hnil, List.dropLast_nil])
          have hnone := at?_below_file h (List.cons_ne_nil (here.getLast hne) [])
          rw [List.dropLast_concat_getLast] at hnone
          rw [hnone] at hopen
          cases hopen
        · by_cases hnext : here ++ [segment] = place
          · rw [if_pos hnext, hnext, h]
            cases rest with
            | nil => exact .ended _
            | cons next rest =>
              change Advance.Avoids place (root.advance place (next :: rest)) _
              rw [advance_from_file h]
              exact .nowhere _ _
          · rw [if_neg hnext]
            split
            · exact .nowhere _ _
            · exact .met _ _ _
            · exact ih hnext

theorem resolveFrom_remove (hroot : root.WellFormed)
    (h : root.at? place = some (.file content modified)) (hplace : place ≠ []) (links : Nat)
    {here : Location} (hhere : here ≠ place) (segments : List OsText) :
    (remove place root).resolveFrom links here segments =
      (root.resolveFrom links here segments).filter (· ≠ place) := by
  induction links generalizing here segments with
  | zero =>
    have hway := advance_remove hroot h hplace hhere segments
    rw [resolveFrom_eq, resolveFrom_eq]
    generalize (remove place root).advance here segments = gone at hway
    generalize root.advance here segments = was at hway
    cases hway with
    | ended => simp [Option.filter_some]
    | arrived hlocation => simp [Option.filter_some, hlocation]
    | met | nowhere => rfl
  | succ links ih =>
    have hway := advance_remove hroot h hplace hhere segments
    rw [resolveFrom_eq, resolveFrom_eq]
    generalize (remove place root).advance here segments = gone at hway
    generalize hwas : root.advance here segments = was at hway
    cases hway with
    | ended => simp [Option.filter_some]
    | arrived hlocation => simp [Option.filter_some, hlocation]
    | met base target rest =>
      apply ih
      split
      · exact Ne.symm hplace
      · rintro rfl
        obtain ⟨info, entries, hbase⟩ := directory_of_met hwas
        rw [h] at hbase
        cases hbase
    | nowhere => rfl

end FileNode

namespace FileTree

variable {t : FileTree} {path : Path} {place : Location} {content : Option ByteArray}
  {modified : Int}

theorem directory_startOf (h : t.resolve path = some place) :
    ∃ info entries, t.root.at? (t.startOf path) = some (.directory info entries) := by
  obtain ⟨first, rest, hsegments⟩ := List.exists_cons_of_ne_nil path.segments_ne_nil
  rw [resolve_eq, hsegments] at h
  change (if path.raw = "" then none
    else t.root.resolveFrom linkLimit (t.startOf path) (first :: rest)) = some place at h
  split at h
  · cases h
  · rw [FileNode.resolveFrom_eq, FileNode.advance_cons] at h
    cases hbarrier : FileNode.barrier? first (t.root.at? (t.startOf path)) with
    | none =>
      obtain ⟨info, entries, hdirectory, -⟩ := FileNode.barrier?_eq_none_iff.1 hbarrier
      exact ⟨info, entries, hdirectory⟩
    | some fault =>
      rw [hbarrier] at h
      cases h

theorem resolve_takeAway (hplace : t.resolve path = some place)
    (h : t.root.at? place = some (.file content modified)) :
    (t.takeAway place).resolve path = none := by
  obtain ⟨info, entries, hstart⟩ := directory_startOf hplace
  have hhere : t.startOf path ≠ place := by
    intro heq
    rw [heq, h] at hstart
    cases hstart
  have hne : place ≠ [] := by
    rintro rfl
    cases hroot : t.startOf path with
    | nil => exact hhere hroot
    | cons name below =>
      have hbelow := FileNode.at?_below_file h (List.cons_ne_nil name below)
      rw [List.nil_append] at hbelow
      rw [hroot, hbelow] at hstart
      cases hstart
  rw [resolve_eq] at hplace ⊢
  split at hplace
  · cases hplace
  · next hraw =>
    rw [if_neg hraw]
    change (FileNode.remove place t.root).resolveFrom linkLimit (t.startOf path) path.segments = none
    rw [FileNode.resolveFrom_remove t.wellFormed h hne _ hhere, hplace]
    simp

theorem put_takeAway (h : t.root.at? place = some (.file content modified)) (new : Option ByteArray)
    (time : Int) : (t.takeAway place).put place (.file new time) trivial =
      t.put place (.file new time) trivial := by
  have hnamed := FileNode.named_of_at? t.wellFormed h
  unfold put
  rw [dif_pos hnamed, dif_pos hnamed]
  congr 1
  exact FileNode.put_remove _ t.wellFormed

theorem put_file_takeAway (h : t.root.at? place = some (.file content modified)) (new : Option ByteArray)
    (time : Int) :
    let back := (t.takeAway place).put place (.file new time) trivial
    back.root.at? place = some (.file new time) ∧ ∀ path, back.resolve path = t.resolve path := by
  rw [put_takeAway h]
  exact put_file h new time

end FileTree

end PluginHost
