/-!
White space as Unicode's property `White_Space` has it, and texts that hold nothing else.
-/
namespace PluginHost.Text

/-- The 25 code points with the property `White_Space`. -/
def isSpace (c : Char) : Bool :=
  let n := c.toNat
  (9 ≤ n && n ≤ 13) || n == 0x20 || n == 0x85 || n == 0xA0 || n == 0x1680 ||
    (0x2000 ≤ n && n ≤ 0x200A) || n == 0x2028 || n == 0x2029 || n == 0x202F ||
    n == 0x205F || n == 0x3000

def trimStart (cs : List Char) : List Char := cs.dropWhile isSpace

def trimEnd (cs : List Char) : List Char := (cs.reverse.dropWhile isSpace).reverse

def trim (cs : List Char) : List Char := trimEnd (trimStart cs)

def isBlank (s : String) : Bool := s.toList.all isSpace

/-- `dropPrefix? p s` is what follows `p` in `s`, if `s` starts with `p`. -/
def dropPrefix? : List Char → List Char → Option (List Char)
  | [], rest => some rest
  | p :: ps, c :: cs => if p = c then dropPrefix? ps cs else none
  | _ :: _, [] => none

theorem dropPrefix?_eq_some_iff {p s r : List Char} : dropPrefix? p s = some r ↔ s = p ++ r := by
  induction p generalizing s with
  | nil => simp [dropPrefix?, eq_comm]
  | cons a p ih =>
    cases s with
    | nil => simp [dropPrefix?]
    | cons c s =>
      by_cases h : a = c
      · simp [dropPrefix?, h, ih]
      · simp [dropPrefix?, h, eq_comm (a := c)]

def splitFirst (sep : Char) : List Char → Option (List Char × List Char)
  | [] => none
  | c :: cs =>
    if c = sep then some ([], cs)
    else (splitFirst sep cs).map fun (before, after) => (c :: before, after)

/-- All parts between the occurrences of `sep`, at least one. -/
def splitAll {α : Type} [DecidableEq α] (sep : α) : List α → List (List α)
  | [] => [[]]
  | c :: cs =>
    if c = sep then [] :: splitAll sep cs
    else match splitAll sep cs with
      | [] => [[c]]
      | part :: parts => (c :: part) :: parts

theorem exists_mem_splitAll {α : Type} [DecidableEq α] {sep c : α} {cs : List α} (h : c ∈ cs)
    (hne : c ≠ sep) : ∃ part ∈ splitAll sep cs, c ∈ part := by
  induction cs with
  | nil => cases h
  | cons a cs ih =>
    unfold splitAll
    split
    · next ha =>
      rcases List.mem_cons.1 h with rfl | h
      · exact absurd ha hne
      · obtain ⟨part, hpart, hc⟩ := ih h
        exact ⟨part, List.mem_cons_of_mem _ hpart, hc⟩
    · split
      · next hnil =>
        rcases List.mem_cons.1 h with rfl | h
        · exact ⟨[c], List.mem_cons_self, List.mem_cons_self⟩
        · obtain ⟨part, hpart, -⟩ := ih h
          rw [hnil] at hpart
          cases hpart
      · next first parts hsplit =>
        rcases List.mem_cons.1 h with rfl | h
        · exact ⟨c :: first, List.mem_cons_self, List.mem_cons_self⟩
        · obtain ⟨part, hpart, hc⟩ := ih h
          rw [hsplit] at hpart
          rcases List.mem_cons.1 hpart with rfl | hpart
          · exact ⟨a :: part, List.mem_cons_self, List.mem_cons_of_mem _ hc⟩
          · exact ⟨part, List.mem_cons_of_mem _ hpart, hc⟩

/-- The lines of a text, each with its closing line feed; nothing follows the last one. -/
def linesKept : List Char → List (List Char)
  | [] => []
  | c :: cs =>
    if c = '\n' then ['\n'] :: linesKept cs
    else match linesKept cs with
      | [] => [[c]]
      | line :: lines => (c :: line) :: lines

theorem flatten_linesKept (cs : List Char) : (linesKept cs).flatten = cs := by
  induction cs with
  | nil => rfl
  | cons c cs ih =>
    simp only [linesKept]
    split
    · simp_all
    · split <;> simp_all

def byteLength : List Char → Nat
  | [] => 0
  | c :: cs => c.utf8Size + byteLength cs

end PluginHost.Text
