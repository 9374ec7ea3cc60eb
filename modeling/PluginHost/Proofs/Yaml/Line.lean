import Mathlib.Data.List.TakeWhile
import PluginHost.Format.Document
import PluginHost.Proofs.Text.Line

/-!
The lines of a YAML text. Some of them hold nothing; others only look as if they did when white space
is understood as in Unicode, and every line feed as the only end of a line.
-/
namespace PluginHost.Yaml

open Text Format

/-- The parts between the breaks of a text. Nothing stands between a carriage return and its line
feed, which makes an empty line of them. -/
def lines (content : List Char) : List (List Char) := content.splitOnP isBreak

def isEmptyLine (line : List Char) : Bool :=
  match line.dropWhile isBlank with
  | [] => true
  | ch :: _ => ch == '#'

/-- An empty line, or the mark of a document's start with nothing but blanks after it. -/
def isVoidLine (line : List Char) : Bool :=
  isEmptyLine line || (dropPrefix? ['-', '-', '-'] line).any fun rest => rest.all isBlank

def isVoid (content : List Char) : Bool := (lines content).all isVoidLine

/-- Every line ends with a line feed, alone or after a carriage return. -/
def endsLinesWithLineFeeds : List Char → Bool
  | [] => true
  | ch :: rest =>
    (!isBreak ch || ch == '\n' || (ch == '\r' && rest.head? == some '\n')) &&
      endsLinesWithLineFeeds rest

/-- White space between words, but not in YAML. -/
def isWide (ch : Char) : Bool := isSpace ch && !isBlank ch && !isBreak ch

variable {line pre rest content : List Char} {ch b : Char}

theorem isSpace_of_isBlank (h : isBlank ch = true) : isSpace ch = true := by
  unfold isBlank at h
  rcases Bool.or_eq_true_iff.1 h with h | h <;> cases eq_of_beq h <;> rfl

theorem not_isBreak_of_isBlank (h : isBlank ch = true) : isBreak ch = false := by
  unfold isBlank at h
  rcases Bool.or_eq_true_iff.1 h with h | h <;> cases eq_of_beq h <;> rfl

/-! Lines. -/

def Unbroken (line : List Char) : Prop := ∀ ch ∈ line, isBreak ch = false

theorem unbroken_nil : Unbroken [] := fun _ h => absurd h List.not_mem_nil

theorem lines_of_unbroken (h : Unbroken line) : lines line = [line] :=
  List.splitOnP_eq_singleton h

theorem lines_append_break (h : Unbroken line) (hb : isBreak b = true) (rest : List Char) :
    lines (line ++ b :: rest) = line :: lines rest :=
  List.splitOnP_append_cons_of_forall_mem h b hb rest

theorem unbroken_or_exists_break (content : List Char) :
    Unbroken content ∨
      ∃ line b rest, content = line ++ b :: rest ∧ Unbroken line ∧ isBreak b = true := by
  induction content with
  | nil => exact .inl unbroken_nil
  | cons ch content ih =>
    cases hch : isBreak ch with
    | true => exact .inr ⟨[], ch, content, rfl, unbroken_nil, hch⟩
    | false =>
      rcases ih with h | ⟨line, b, rest, rfl, hline, hb⟩
      · exact .inl (List.forall_mem_cons.2 ⟨hch, h⟩)
      · exact .inr ⟨ch :: line, b, rest, rfl, List.forall_mem_cons.2 ⟨hch, hline⟩, hb⟩

theorem exists_firstLine (content : List Char) :
    ∃ line rest others, content = line ++ rest ∧ Unbroken line ∧ endsLine rest = true ∧
      ∀ pre, Unbroken pre → lines (pre ++ content) = (pre ++ line) :: others := by
  rcases unbroken_or_exists_break content with h | ⟨line, b, rest, rfl, hline, hb⟩
  · refine ⟨content, [], [], by simp, h, rfl, fun pre hpre => ?_⟩
    exact lines_of_unbroken (List.forall_mem_append.2 ⟨hpre, h⟩)
  · refine ⟨line, b :: rest, lines rest, rfl, hline, hb, fun pre hpre => ?_⟩
    rw [← List.append_assoc]
    exact lines_append_break (List.forall_mem_append.2 ⟨hpre, hline⟩) hb rest

theorem isVoid_of_unbroken (h : Unbroken line) : isVoid line = isVoidLine line := by
  simp [isVoid, lines_of_unbroken h]

theorem isVoid_append_break (h : Unbroken line) (hb : isBreak b = true) (rest : List Char) :
    isVoid (line ++ b :: rest) = (isVoidLine line && isVoid rest) := by
  simp [isVoid, lines_append_break h hb]

/-! Lines that count as idle. -/

theorem isIdleLine_iff : isIdleLine line = true ↔
    trim line = [] ∨ (∃ comment, trim line = '#' :: comment) ∨ trim line = ['-', '-', '-'] := by
  unfold isIdleLine
  cases trim line with
  | nil => simp
  | cons ch rest => simp

/-- What an idle line starts with, its blanks apart: a comment, three hyphens that end it but for white
space, or white space of another kind. -/
theorem word_of_isIdleLine (h : isIdleLine line = true)
    (hword : line.dropWhile isBlank = ch :: rest) :
    isSpace ch = true ∨ ch = '#' ∨
      ∃ after, (∀ c ∈ after, isSpace c = true) ∧ ch :: rest = '-' :: '-' :: '-' :: after := by
  cases hspace : isSpace ch with
  | true => exact .inl rfl
  | false =>
    have hblanks : ∀ c ∈ line.takeWhile isBlank, isSpace c = true := fun c hc =>
      isSpace_of_isBlank (List.all_eq_true.1 List.all_takeWhile c hc)
    have hstart : trimStart line = ch :: rest := by
      have hline := List.takeWhile_append_dropWhile (p := isBlank) (l := line)
      rw [hword] at hline
      rw [← hline, trimStart_append hblanks, trimStart_cons hspace]
    obtain ⟨after, hafter, hspaces⟩ := exists_blanks_after (ch :: rest)
    have htrim : trim line = trimEnd (ch :: rest) := congrArg trimEnd hstart
    rw [← htrim] at hafter
    rcases isIdleLine_iff.1 h with hnil | ⟨comment, hcomment⟩ | hmark
    · rw [hnil, List.nil_append] at hafter
      cases (hspaces ch (hafter ▸ List.mem_cons_self)).symm.trans hspace
    · rw [hcomment] at hafter
      exact .inr (.inl (List.cons.inj hafter).1)
    · rw [hmark] at hafter
      exact .inr (.inr ⟨after, hspaces, hafter⟩)

theorem isEmptyLine_iff : isEmptyLine line = true ↔
    ∃ blanks, (∀ c ∈ blanks, isBlank c = true) ∧
      (line = blanks ∨ ∃ comment, line = blanks ++ '#' :: comment) := by
  unfold isEmptyLine
  constructor
  · intro h
    have hblanks : ∀ c ∈ line.takeWhile isBlank, isBlank c = true :=
      List.all_eq_true.1 List.all_takeWhile
    have hline := List.takeWhile_append_dropWhile (p := isBlank) (l := line)
    split at h
    · next hnil =>
      rw [hnil, List.append_nil] at hline
      exact ⟨_, hblanks, .inl hline.symm⟩
    · next ch rest hword =>
      cases eq_of_beq h
      rw [hword] at hline
      exact ⟨_, hblanks, .inr ⟨rest, hline.symm⟩⟩
  · rintro ⟨blanks, hblanks, rfl | ⟨comment, rfl⟩⟩
    · rw [List.dropWhile_eq_nil_iff.2 hblanks]
    · simp [List.dropWhile_append_of_pos hblanks, isBlank]

theorem isVoidLine_iff : isVoidLine line = true ↔ isEmptyLine line = true ∨
    ∃ blanks, (∀ c ∈ blanks, isBlank c = true) ∧ line = '-' :: '-' :: '-' :: blanks := by
  unfold isVoidLine
  rw [Bool.or_eq_true, Option.any_eq_true]
  simp only [dropPrefix?_eq_some_iff, List.all_eq_true]
  constructor <;> rintro (h | ⟨blanks, h, h'⟩)
  · exact .inl h
  · exact .inr ⟨blanks, h', h⟩
  · exact .inl h
  · exact .inr ⟨blanks, h', h⟩

theorem isVoidLine_mark (rest : List Char) :
    isVoidLine ('-' :: '-' :: '-' :: rest) = rest.all isBlank := by
  have hempty : isEmptyLine ('-' :: '-' :: '-' :: rest) = false := rfl
  simp [isVoidLine, hempty, dropPrefix?]

theorem isVoidLine_of_spaces (h : ∀ ch ∈ line, isSpace ch = true) :
    isVoidLine line = line.all isBlank := by
  rw [Bool.eq_iff_iff, isVoidLine_iff, isEmptyLine_iff, List.all_eq_true]
  constructor
  · rintro (⟨blanks, hblanks, rfl | ⟨comment, rfl⟩⟩ | ⟨blanks, -, rfl⟩)
    · exact hblanks
    · cases h '#' (by simp)
    · cases h '-' (by simp)
  · exact fun hblanks => .inl ⟨line, hblanks, .inl rfl⟩

theorem isIdleLine_of_isVoidLine (h : isVoidLine line = true) : isIdleLine line = true := by
  rw [isIdleLine_iff]
  rcases isVoidLine_iff.1 h with h | ⟨blanks, hblanks, rfl⟩
  · obtain ⟨blanks, hblanks, rfl | ⟨comment, rfl⟩⟩ := isEmptyLine_iff.1 h
    · refine .inl ?_
      have hstart := trimStart_append (fun c hc => isSpace_of_isBlank (hblanks c hc)) []
      rw [List.append_nil] at hstart
      exact congrArg trimEnd hstart
    · refine .inr (.inl ⟨trimEnd comment, ?_⟩)
      unfold trim
      rw [trimStart_append fun c hc => isSpace_of_isBlank (hblanks c hc), trimStart_cons rfl]
      exact trimEnd_append_cons rfl [] comment
  · refine .inr (.inr ?_)
    unfold trim
    rw [trimStart_cons rfl]
    have hend := trimEnd_append_cons (c := '-') rfl ['-', '-'] blanks
    rw [trimEnd_of_blanks fun c hc => isSpace_of_isBlank (hblanks c hc)] at hend
    exact hend

theorem trim_append_spaces {spaces : List Char} (h : ∀ c ∈ spaces, isSpace c = true)
    (line : List Char) : trim (line ++ spaces) = trim line := by
  have hend : ∀ cs, trimEnd (cs ++ spaces) = trimEnd cs := by
    intro cs
    unfold trimEnd
    rw [List.reverse_append, List.dropWhile_append_of_pos (by simpa using h)]
  unfold trim
  rw [trimStart, List.dropWhile_append]
  split
  · next hempty =>
    rw [List.dropWhile_eq_nil_iff.2 h, trimStart, List.isEmpty_iff.1 hempty]
  · exact hend _

theorem isIdleLine_append_spaces {spaces : List Char} (h : ∀ c ∈ spaces, isSpace c = true)
    (line : List Char) : isIdleLine (line ++ spaces) = isIdleLine line := by
  unfold isIdleLine
  rw [trim_append_spaces h]

/-! Where line feeds end the lines, both ways to split a text come to the same. -/

theorem linesKept_append_lineFeed (h : '\n' ∉ line) (rest : List Char) :
    linesKept (line ++ '\n' :: rest) = (line ++ ['\n']) :: linesKept rest := by
  induction line with
  | nil => rfl
  | cons ch line ih =>
    obtain ⟨hch, hline⟩ := List.ne_and_not_mem_of_not_mem_cons h
    rw [List.cons_append, linesKept, if_neg (Ne.symm hch), ih hline]
    rfl

theorem linesKept_of_no_lineFeed (h : '\n' ∉ line) (hne : line ≠ []) : linesKept line = [line] := by
  induction line with
  | nil => exact absurd rfl hne
  | cons ch line ih =>
    obtain ⟨hch, hline⟩ := List.ne_and_not_mem_of_not_mem_cons h
    rw [linesKept, if_neg (Ne.symm hch)]
    cases line with
    | nil => rfl
    | cons d line => rw [ih hline (List.cons_ne_nil _ _)]

theorem Unbroken.no_lineFeed (h : Unbroken line) : '\n' ∉ line := by
  intro hmem
  cases h '\n' hmem

/-- The text is taken up character by character; `line` is what comes before it on its first line. -/
theorem isIdleLine_lines_append {content : List Char}
    (hends : endsLinesWithLineFeeds content = true) (hline : Unbroken line)
    (hidle : ∀ l ∈ linesKept (line ++ content), isIdleLine l = true) :
    ∀ l ∈ lines (line ++ content), isIdleLine l = true := by
  induction content generalizing line with
  | nil =>
    rw [List.append_nil] at hidle ⊢
    rw [lines_of_unbroken hline]
    by_cases hne : line = []
    · subst hne
      simp [isIdleLine, trim, trimStart, trimEnd]
    · rwa [linesKept_of_no_lineFeed hline.no_lineFeed hne] at hidle
  | cons ch content ih =>
    rw [endsLinesWithLineFeeds, Bool.and_eq_true] at hends
    obtain ⟨hch, hends⟩ := hends
    cases hbreak : isBreak ch with
    | false =>
      have hmore : Unbroken (line ++ [ch]) :=
        List.forall_mem_append.2 ⟨hline, by simpa using hbreak⟩
      rw [List.append_cons] at hidle ⊢
      exact ih hends hmore hidle
    | true =>
      rw [lines_append_break hline hbreak]
      simp only [hbreak, Bool.not_true, Bool.false_or, Bool.or_eq_true, Bool.and_eq_true,
        beq_iff_eq] at hch
      rcases hch with rfl | ⟨rfl, hnext⟩
      · rw [linesKept_append_lineFeed hline.no_lineFeed, List.forall_mem_cons] at hidle
        rw [isIdleLine_append_spaces (by simp [isSpace])] at hidle
        exact List.forall_mem_cons.2 ⟨hidle.1, ih hends unbroken_nil hidle.2⟩
      · obtain ⟨rest, rfl⟩ := List.head?_eq_some_iff.1 hnext
        have hno : '\n' ∉ line ++ ['\r'] := by simpa using hline.no_lineFeed
        rw [List.append_cons, linesKept_append_lineFeed hno, List.forall_mem_cons,
          isIdleLine_append_spaces (by simp [isSpace]), isIdleLine_append_spaces (by simp [isSpace])]
          at hidle
        refine List.forall_mem_cons.2 ⟨hidle.1, ih hends unbroken_nil ?_⟩
        exact List.forall_mem_cons.2 ⟨rfl, hidle.2⟩

theorem isIdleLine_of_mem_lines {content : String} (h : isIdle content = true)
    (hends : endsLinesWithLineFeeds content.toList = true) :
    ∀ l ∈ lines content.toList, isIdleLine l = true :=
  isIdleLine_lines_append hends unbroken_nil (List.all_eq_true.1 h)

end PluginHost.Yaml
