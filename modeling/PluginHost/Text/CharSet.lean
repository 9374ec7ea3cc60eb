import PluginHost.Text.Blank
import PluginHost.Text.Reader

/-!
Sets of characters, kept as ranges of code points that are in order and do not touch. Main
statement: `contains_ofRanges`, the set of some ranges holds exactly what the ranges hold.
-/
namespace PluginHost.Text

def inRange (n : Nat) (r : Nat × Nat) : Bool := r.1 ≤ n && n ≤ r.2

structure CharSet where
  ranges : List (Nat × Nat)
  spaced : ranges.Pairwise fun a b => a.2 + 1 < b.1
  deriving DecidableEq

namespace CharSet

def byFirst (a b : Nat × Nat) : Bool := a.1 ≤ b.1

/-- A range and those after it, with ranges that touch made one. -/
def glue (r : Nat × Nat) : List (Nat × Nat) → List (Nat × Nat)
  | [] => [r]
  | next :: rest =>
    if next.1 ≤ r.2 + 1 then glue (r.1, max r.2 next.2) rest else r :: glue next rest

theorem sorted_lengthen {r next : Nat × Nat} {rest : List (Nat × Nat)} {last : Nat}
    (sorted : (r :: next :: rest).Pairwise (byFirst · ·)) :
    ((r.1, last) :: rest).Pairwise (byFirst · ·) := by
  simp only [List.pairwise_cons, List.mem_cons, byFirst, decide_eq_true_eq] at sorted ⊢
  exact ⟨fun a ha => sorted.1 a (.inr ha), sorted.2.2⟩

theorem le_of_mem_glue {r b : Nat × Nat} {rest : List (Nat × Nat)}
    (sorted : (r :: rest).Pairwise (byFirst · ·)) (h : b ∈ glue r rest) : r.1 ≤ b.1 := by
  induction rest generalizing r with
  | nil => simp_all [glue]
  | cons next rest ih =>
    simp only [glue] at h
    split at h
    · exact ih (r := (r.1, max r.2 next.2)) (sorted_lengthen sorted) h
    · obtain ⟨first, tail⟩ := List.pairwise_cons.1 sorted
      have le : r.1 ≤ next.1 := by simpa [byFirst] using first next (by simp)
      rcases List.mem_cons.1 h with rfl | h
      · exact Nat.le_refl _
      · exact Nat.le_trans le (ih tail h)

theorem spaced_glue {r : Nat × Nat} {rest : List (Nat × Nat)}
    (sorted : (r :: rest).Pairwise (byFirst · ·)) :
    (glue r rest).Pairwise fun a b => a.2 + 1 < b.1 := by
  induction rest generalizing r with
  | nil => simp [glue]
  | cons next rest ih =>
    have tail := (List.pairwise_cons.1 sorted).2
    simp only [glue]
    split
    · exact ih (sorted_lengthen sorted)
    · refine List.pairwise_cons.2 ⟨fun b hb => ?_, ih tail⟩
      have := le_of_mem_glue tail hb
      omega

theorem any_glue (n : Nat) {r : Nat × Nat} {rest : List (Nat × Nat)}
    (sorted : (r :: rest).Pairwise (byFirst · ·)) :
    (glue r rest).any (inRange n) = (r :: rest).any (inRange n) := by
  induction rest generalizing r with
  | nil => rfl
  | cons next rest ih =>
    obtain ⟨first, tail⟩ := List.pairwise_cons.1 sorted
    have le : r.1 ≤ next.1 := by simpa [byFirst] using first next (by simp)
    simp only [glue]
    split
    · rw [ih (sorted_lengthen sorted)]
      simp only [List.any_cons, inRange, ← Bool.or_assoc]
      congr 1
      grind
    · simp only [List.any_cons, ih tail]

def glueAll : List (Nat × Nat) → List (Nat × Nat)
  | [] => []
  | r :: rest => glue r rest

theorem sorted_mergeSort (rs : List (Nat × Nat)) :
    (rs.mergeSort byFirst).Pairwise (byFirst · ·) :=
  List.pairwise_mergeSort (by simp only [byFirst, decide_eq_true_eq]; omega)
    (by simp only [byFirst, Bool.or_eq_true, decide_eq_true_eq]; omega) rs

def ofRanges (rs : List (Nat × Nat)) : CharSet where
  ranges := glueAll (rs.mergeSort byFirst)
  spaced := by
    have sorted := sorted_mergeSort rs
    match h : rs.mergeSort byFirst with
    | [] => simp [glueAll]
    | r :: rest => exact spaced_glue (h ▸ sorted)

def contains (s : CharSet) (n : Nat) : Bool := s.ranges.any (inRange n)

theorem contains_ofRanges (rs : List (Nat × Nat)) (n : Nat) :
    (ofRanges rs).contains n = rs.any (inRange n) := by
  have sorted := sorted_mergeSort rs
  rw [← (List.mergeSort_perm rs byFirst).any_eq]
  simp only [contains, ofRanges]
  match h : rs.mergeSort byFirst with
  | [] => rfl
  | r :: rest => exact any_glue n (h ▸ sorted)

def empty : CharSet := ofRanges []

def range (first last : Nat) : CharSet := ofRanges [(first, last)]

def singleton (n : Nat) : CharSet := range n n

def ofChars (text : String) : CharSet := ofRanges (text.toList.map fun c => (c.toNat, c.toNat))

def union (s t : CharSet) : CharSet := ofRanges (s.ranges ++ t.ranges)

@[simp] theorem contains_union (s t : CharSet) (n : Nat) :
    (s.union t).contains n = (s.contains n || t.contains n) := by
  rw [union, contains_ofRanges, List.any_append]
  rfl

def sum (sets : List CharSet) : CharSet := ofRanges (sets.flatMap ranges)

/-- Code points between those of characters that stand for no character. -/
def surrogates : CharSet := range 0xD800 0xDFFF

/-- What lies from `first` on before, between and behind the ranges. -/
def gaps (first : Nat) : List (Nat × Nat) → List (Nat × Nat)
  | [] => if first < 0x110000 then [(first, 0x10FFFF)] else []
  | r :: rest =>
    if first < r.1 then (first, r.1 - 1) :: gaps (r.2 + 1) rest else gaps (r.2 + 1) rest

def compl (s : CharSet) : CharSet := ofRanges (gaps 0 (s.union surrogates).ranges)

def all : CharSet := empty.compl

def inter (s t : CharSet) : CharSet := (s.compl.union t.compl).compl

def diff (s t : CharSet) : CharSet := (s.compl.union t).compl

def symmDiff (s t : CharSet) : CharSet := (s.diff t).union (t.diff s)

/-- The only code point of a set that has no more. -/
def single? (s : CharSet) : Option Nat :=
  match s.ranges with
  | [(first, last)] => if first = last then some first else none
  | _ => none

/-- The runs whose label is wanted; together the runs cover all code points from `first` on. -/
def rangesOf {α : Type} (wanted : α → Bool) (first : Nat) :
    List (α × Nat) → List (Nat × Nat)
  | [] => []
  | (label, length) :: rest =>
    let later := rangesOf wanted (first + length) rest
    if wanted label then (first, first + length - 1) :: later else later

def ofRuns {α : Type} (wanted : α → Bool) (runs : List (α × Nat)) : CharSet :=
  ofRanges (rangesOf wanted 0 runs)

/-- A code point or, around a hyphen, the first and last of a range, in hexadecimal digits. -/
def readRange (word : List Char) : Nat × Nat :=
  match splitFirst '-' word with
  | some (first, last) => (number 16 first, number 16 last)
  | none => (number 16 word, number 16 word)

def readRanges (text : String) : List (Nat × Nat) := (splitAll ' ' text.toList).map readRange

def ofText (text : String) : CharSet := ofRanges (readRanges text)

def ofLines (lines : List String) : CharSet := ofRanges (lines.flatMap readRanges)

end CharSet

end PluginHost.Text
