import PluginHost.Proofs.Text.Line
import PluginHost.Settings.KeyLocation

/-!
Sections of a settings text as a path asks for them. A line opens one if its first character that is no
blank is a bracket; the header of a table does so, and a path asks for what follows its headers, or
only for what follows one of them.
-/
namespace PluginHost.Settings

open Text

def opensSection (line : List Char) : Bool := (trimStart line).head? == some '['

theorem isHeader_eq_true_iff {header line : List Char} : isHeader header line = true ↔
    ∃ rest, trim line = header ++ rest ∧
      (trimStart rest = [] ∨ ∃ comment, trimStart rest = '#' :: comment) := by
  simp only [← dropPrefix?_eq_some_iff]
  unfold isHeader
  cases dropPrefix? header (trim line) with
  | none => simp
  | some rest =>
    simp only [Option.some.injEq, exists_eq_left']
    cases trimStart rest <;> simp

inductive TableKind
  | single
  | array

namespace TableKind

def header (kind : TableKind) (name : String) : List Char :=
  match kind with
  | single => ("[" ++ name ++ "]").toList
  | array => ("[[" ++ name ++ "]]").toList

/-- The line reads as the header of the table, up to blanks and a comment after it. -/
def Heads (kind : TableKind) (name : String) (line : List Char) : Prop :=
  ∃ before after, line = before ++ kind.header name ++ after ∧ (∀ c ∈ before, isSpace c = true) ∧
    ((∀ c ∈ after, isSpace c = true) ∨
      ∃ blanks comment, after = blanks ++ '#' :: comment ∧ ∀ c ∈ blanks, isSpace c = true)

variable {kind : TableKind} {name : String} {line : List Char}

theorem exists_header_eq (kind : TableKind) (name : String) :
    ∃ inner, kind.header name = '[' :: inner ++ [']'] := by
  cases kind with
  | single => exact ⟨name.toList, by simp [header]⟩
  | array => exact ⟨'[' :: name.toList ++ [']'], by simp [header]⟩

/-- Headers begin and end without blanks, so that those around one are its line's own. -/
theorem trim_header {before : List Char} (hbefore : ∀ c ∈ before, isSpace c = true)
    (after : List Char) :
    trim (before ++ kind.header name ++ after) = kind.header name ++ trimEnd after := by
  obtain ⟨inner, hheader⟩ := exists_header_eq kind name
  unfold trim
  rw [List.append_assoc, trimStart_append hbefore, hheader, List.append_assoc, List.cons_append,
    trimStart_cons (by decide), List.singleton_append, ← List.cons_append,
    trimEnd_append_cons (by decide)]
  simp

theorem isHeader_iff : isHeader (kind.header name) line = true ↔ kind.Heads name line := by
  rw [isHeader_eq_true_iff]
  constructor
  · rintro ⟨rest, htrim, hrest⟩
    obtain ⟨before, hline, hbefore⟩ := exists_blanks_before line
    obtain ⟨trailing, hstart, htrailing⟩ := exists_blanks_after (trimStart line)
    change trimStart line = trim line ++ trailing at hstart
    obtain ⟨blanks, hsplit, hblanks⟩ := exists_blanks_before rest
    refine ⟨before, rest ++ trailing, ?_, hbefore, ?_⟩
    · rw [hstart, htrim] at hline
      simpa using hline
    · rcases hrest with hnone | ⟨comment, hcomment⟩
      · left
        rw [hnone, List.append_nil] at hsplit
        subst hsplit
        intro c hc
        exact (List.mem_append.1 hc).elim (hblanks c) (htrailing c)
      · right
        refine ⟨blanks, comment ++ trailing, ?_, hblanks⟩
        rw [hcomment] at hsplit
        simp [hsplit]
  · rintro ⟨before, after, rfl, hbefore, hafter⟩
    refine ⟨trimEnd after, trim_header hbefore after, ?_⟩
    rcases hafter with hblanks | ⟨blanks, comment, rfl, hblanks⟩
    · left
      rw [trimEnd_of_blanks hblanks]
      rfl
    · right
      rw [trimEnd_append_cons (by decide), trimStart_append hblanks, trimStart_cons (by decide)]
      exact ⟨_, rfl⟩

instance : Decidable (kind.Heads name line) := decidable_of_iff _ isHeader_iff

theorem Heads.opensSection (h : kind.Heads name line) : opensSection line = true := by
  obtain ⟨inner, hheader⟩ := exists_header_eq kind name
  obtain ⟨before, after, rfl, hbefore, -⟩ := h
  unfold Settings.opensSection
  rw [List.append_assoc, trimStart_append hbefore, hheader, List.append_assoc, List.cons_append,
    trimStart_cons (by decide)]
  rfl

end TableKind

/-- What a path asks for: the table under some keys, or one of an array of tables if it ends in an index
after at least one key. -/
inductive AsksFor : List String → List String → Option Nat → Prop
  | all {path : List String} (h : ∀ keys last, path = keys ++ [last] → keys ≠ [] →
      wordNumber? last.toList = none) : AsksFor path path none
  | nth {keys : List String} {last : String} {n : Nat} (hkeys : keys ≠ [])
      (hlast : wordNumber? last.toList = some n) : AsksFor (keys ++ [last]) keys (some n)

theorem splitIndex_concat {keys : List String} (hkeys : keys ≠ []) (last : String) :
    splitIndex (keys ++ [last]) =
      match wordNumber? last.toList with
      | some n => (keys, some n)
      | none => (keys ++ [last], none) := by
  unfold splitIndex
  rw [List.dropLast_concat, List.getLast?_concat]
  cases keys with
  | nil => exact absurd rfl hkeys
  | cons key keys => rfl

theorem asksFor_splitIndex (path : List String) :
    AsksFor path (splitIndex path).1 (splitIndex path).2 := by
  rcases List.eq_nil_or_concat path with rfl | ⟨keys, last, hpath⟩
  · exact .all (by simp)
  · rw [List.concat_eq_append] at hpath
    subst hpath
    by_cases hkeys : keys = []
    · subst hkeys
      exact .all fun keys' last' heq hkeys' => absurd (List.append_inj' heq rfl).1.symm hkeys'
    · rw [splitIndex_concat hkeys]
      cases hlast : wordNumber? last.toList with
      | some n => exact .nth hkeys hlast
      | none =>
        refine .all fun keys' last' heq _ => ?_
        obtain rfl := List.singleton_inj.1 (List.append_inj' heq rfl).2
        exact hlast

theorem AsksFor.unique {path keys keys' : List String} {index index' : Option Nat}
    (h : AsksFor path keys index) (h' : AsksFor path keys' index') : (keys, index) = (keys', index') := by
  cases h with
  | all hall =>
    cases h' with
    | all => rfl
    | nth hkeys hlast =>
      rw [hall _ _ rfl hkeys] at hlast
      cases hlast
  | nth hkeys hlast =>
    generalize hpath : _ ++ [_] = path at h'
    cases h' with
    | all hall =>
      rw [hall _ _ hpath.symm hkeys] at hlast
      cases hlast
    | nth hkeys' hlast' =>
      obtain ⟨rfl, hlasts⟩ := List.append_inj' hpath rfl
      obtain rfl := List.singleton_inj.1 hlasts
      rw [hlast] at hlast'
      rw [hlast']

theorem asksFor_iff {path keys : List String} {index : Option Nat} :
    AsksFor path keys index ↔ splitIndex path = (keys, index) := by
  constructor
  · exact (asksFor_splitIndex path).unique
  · intro h
    have hsplit := asksFor_splitIndex path
    rwa [h] at hsplit

variable {header : List Char}

theorem sections_eq_nil_iff {offset : Nat} {lines : List (List Char)} :
    sections header offset lines = [] ↔ ∀ line ∈ lines, isHeader header line = false := by
  induction lines generalizing offset with
  | nil => simp [sections]
  | cons line rest ih =>
    rw [sections]
    by_cases hheads : isHeader header line <;> simp [hheads, ih]

/-- Arrays of tables are looked for first. -/
def tableKind (lines : List (List Char)) (name : String) : TableKind :=
  if ∃ line ∈ lines, TableKind.array.Heads name line then .array else .single

theorem sections_tableKind (lines : List (List Char)) (name : String) :
    sections ((tableKind lines name).header name) 0 lines =
      match sections (TableKind.array.header name) 0 lines with
      | [] => sections (TableKind.single.header name) 0 lines
      | arrays => arrays := by
  unfold tableKind
  split
  · next harray =>
    obtain ⟨line, hline, hheads⟩ := harray
    split
    · next hnone =>
      have hno := sections_eq_nil_iff.1 hnone line hline
      rw [TableKind.isHeader_iff.2 hheads] at hno
      cases hno
    · rfl
  · next hno =>
    have hnone : sections (TableKind.array.header name) 0 lines = [] := by
      rw [sections_eq_nil_iff]
      intro line hline
      rw [← Bool.not_eq_true, TableKind.isHeader_iff]
      exact fun hheads => hno ⟨line, hline, hheads⟩
    rw [hnone]

/-- The last of these lines that opens a section is a header of the table, and the one with this number
if a number is given. -/
def EndsInTable (kind : TableKind) (name : String) (index : Option Nat)
    (above : List (List Char)) : Prop :=
  ∃ before line between, above = before ++ line :: between ∧ kind.Heads name line ∧
    (∀ line ∈ between, opensSection line = false) ∧
    ∀ n, index = some n → before.countP (fun line => kind.Heads name line) = n

/-- What comes after these lines of the text is in a section that the path asks for. -/
def AskedAfter (content : String) (path : List String) (above : List (List Char)) : Prop :=
  (path = [] ∧ ∀ line ∈ above, opensSection line = false) ∨
    ∃ keys index, path ≠ [] ∧ AsksFor path keys index ∧
      EndsInTable (tableKind (linesKept content.toList) (".".intercalate keys))
        (".".intercalate keys) index above

end PluginHost.Settings
