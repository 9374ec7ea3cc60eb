import PluginHost.Proofs.Yaml.Plain
import PluginHost.Proofs.Yaml.Root

/-!
What a text of idle lines holds. Where a line is not void, a plain scalar starts in it; the first such
scalar is the document's root, or the start of its first key.
-/
namespace PluginHost.Yaml

open Text Format

variable {marks : Nat} {c : Cursor} {ch b : Char} {pre rest more : List Char}

namespace Cursor

/-- The lines from here on are idle, and on a line that has begun only white space is left. -/
structure Idle (c : Cursor) : Prop where
  idle : ∀ line ∈ lines c.rest, isIdleLine line = true
  within : c.column ≠ 0 → ∀ line ∈ (lines c.rest).head?, ∀ ch ∈ line, isSpace ch = true

theorem lineBreak?_of_break (h : c.rest = b :: rest) (hb : isBreak b = true) :
    ∃ text d, c.lineBreak? = some (text, d) ∧ d.column = 0 ∧
      (d.rest = rest ∨ rest = '\n' :: d.rest) := by
  unfold lineBreak?
  rw [h]
  dsimp only
  split
  · next r heq =>
    obtain ⟨rfl, rfl⟩ := List.cons.inj heq
    exact ⟨_, _, rfl, rfl, .inr rfl⟩
  · next b' r _ heq =>
    obtain ⟨rfl, rfl⟩ := List.cons.inj heq
    split
    · exact ⟨_, _, rfl, rfl, .inl rfl⟩
    · exact ⟨_, _, rfl, rfl, .inl rfl⟩
  · next heq => cases heq

theorem lineBreak?_of_no_break (h : ∀ b ∈ c.rest.head?, isBreak b = false) : c.lineBreak? = none := by
  unfold lineBreak?
  dsimp only
  split
  · next heq =>
    rw [heq] at h
    cases h _ rfl
  · next b r _ heq =>
    have hb : isBreak b = false := h b (by simp [heq])
    rw [hb]
    unfold isBreak at hb
    simp only [Bool.or_eq_false_iff] at hb
    simp [hb]
  · rfl

theorem rest_skipWhile (c : Cursor) (p : Char → Bool) :
    (c.skipWhile p).rest = c.rest.dropWhile p := by
  calc c.rest.drop (c.rest.takeWhile p).length
      = (c.rest.takeWhile p ++ c.rest.dropWhile p).drop (c.rest.takeWhile p).length := by
        rw [List.takeWhile_append_dropWhile]
    _ = c.rest.dropWhile p := List.drop_left

/-- Blanks, or only spaces, and then perhaps a comment are passed over. -/
def passLine (tabs : Bool) (c : Cursor) : Cursor :=
  (c.skipWhile fun ch => ch == ' ' || (tabs && ch == '\t')).skipComment

/-- Where the scanner stops in an idle text that is `void` or not: at its end, at a tab that may not
stand there, at the mark of a document's start, or where a plain scalar starts. -/
inductive Halts (void : Bool) (c : Cursor) : Prop
  | done (rest : c.rest = []) (void : void = true)
  | tab {more : List Char} (rest : c.rest = '\t' :: more)
  | mark {more : List Char} (column : c.column = 0) (rest : c.rest = '-' :: '-' :: '-' :: more)
      (ends : endsWord more = true) (idle : (c.advance 3).Idle) (void : isVoid more = void)
  | scalar (starts : StartsIdly c.rest) (unmarked : c.atDocumentMark = false) (void : void = false)

theorem atDocumentMark_hyphens (h : c.rest = '-' :: '-' :: '-' :: more) :
    c.atDocumentMark = (c.column == 0 && endsWord more) := by
  unfold atDocumentMark
  rw [h]
  simp [startsWithMark]

theorem atDocumentMark_wide (h : c.rest = ch :: more) (hch : isWide ch = true) :
    c.atDocumentMark = false := by
  have hhyphen : (ch == '-') = false := by
    rw [beq_eq_false_iff_ne]
    rintro rfl
    cases hch
  have hdot : (ch == '.') = false := by
    rw [beq_eq_false_iff_ne]
    rintro rfl
    cases hch
  unfold atDocumentMark
  rw [h]
  unfold startsWithMark
  split
  · next heq =>
    cases heq
    simp [hhyphen, hdot]
  · simp

theorem Idle.after_mark (h : c.Idle) {d : Cursor} {after : List Char}
    (hrest : c.rest = '-' :: '-' :: '-' :: rest) {others : List (List Char)}
    (hlines : lines c.rest = ('-' :: '-' :: '-' :: after) :: others)
    (hspaces : ∀ x ∈ after, isSpace x = true) (hd : d.rest = rest) :
    d.Idle ∧ isVoid rest = isVoid c.rest := by
  obtain ⟨line, tail, others', rfl, -, -, hfirst⟩ := exists_firstLine rest
  have hmark : Unbroken ['-', '-', '-'] := by simp [Unbroken, isBreak]
  have hsame := hlines.symm.trans ((congrArg lines hrest).trans (hfirst _ hmark))
  simp only [List.cons_append, List.nil_append, List.cons.injEq, true_and] at hsame
  obtain ⟨rfl, rfl⟩ := hsame
  have hafter : lines (after ++ tail) = after :: others := hfirst [] unbroken_nil
  have hline : isIdleLine after = true := (isIdleLine_append_spaces hspaces []).trans rfl
  refine ⟨⟨?_, fun _ => ?_⟩, ?_⟩
  · rw [hd, hafter]
    refine List.forall_mem_cons.2 ⟨hline, fun l hl => h.idle l ?_⟩
    rw [hlines]
    exact List.mem_cons_of_mem _ hl
  · rw [hd, hafter]
    simpa using hspaces
  · unfold isVoid
    rw [hafter, hlines, List.all_cons, List.all_cons, isVoidLine_of_spaces hspaces, isVoidLine_mark]

theorem Idle.atDocumentMark_of_isVoidLine (h : c.Idle) {d : Cursor} {line : List Char}
    {others : List (List Char)} (hlines : lines c.rest = (pre ++ ch :: line) :: others)
    (hpre : ∀ x ∈ pre, isBlank x = true) (hword : isBlank ch = false) (hcomment : ch ≠ '#') (hd : d.rest = ch :: line ++ rest)
    (hends : endsLine rest = true) (hcolumn : d.column = c.column + pre.length)
    (hvoid : isVoidLine (pre ++ ch :: line) = true) : d.atDocumentMark = true := by
  rcases isVoidLine_iff.1 hvoid with hempty | ⟨blanks, hblanks, hmark⟩
  · unfold isEmptyLine at hempty
    rw [List.dropWhile_append_of_pos hpre, List.dropWhile_cons_of_neg (by simp [hword])] at hempty
    exact absurd (eq_of_beq hempty) hcomment
  · cases pre with
    | cons x pre =>
      cases (List.cons.inj hmark).1
      cases hpre '-' List.mem_cons_self
    | nil =>
      obtain ⟨rfl, rfl⟩ := List.cons.inj hmark
      have hzero : c.column = 0 := by
        by_contra hne
        cases h.within hne _ (by rw [hlines]; rfl) '-' (by simp)
      have hendsWord : endsWord (blanks ++ rest) = true := by
        cases blanks with
        | nil =>
          cases rest with
          | nil => rfl
          | cons b rest => simp [endsWord, show isBreak b = true from hends]
        | cons x blanks => simp [endsWord, hblanks x List.mem_cons_self]
      have hafter : d.rest = '-' :: '-' :: '-' :: (blanks ++ rest) := hd
      simp [atDocumentMark_hyphens hafter, hcolumn, hzero, hendsWord]

theorem Idle.halts_of_word (h : c.Idle) {d : Cursor} (hrest : c.rest = pre ++ ch :: more)
    (hpre : ∀ x ∈ pre, isBlank x = true) (hword : isBlank ch = false) (hbreak : isBreak ch = false)
    (hcomment : ch ≠ '#') (hd : d.rest = ch :: more) (hcolumn : d.column = c.column + pre.length) :
    d.Halts (isVoid c.rest) := by
  have hunbroken : Unbroken (pre ++ [ch]) := by
    refine List.forall_mem_append.2 ⟨fun x hx => not_isBreak_of_isBlank (hpre x hx), ?_⟩
    simpa [Unbroken] using hbreak
  obtain ⟨line, after, others, rfl, -, hends, hlines⟩ := exists_firstLine more
  have hfirst : lines c.rest = (pre ++ ch :: line) :: others := by
    rw [hrest, List.append_cons, hlines _ hunbroken, List.append_assoc]
    rfl
  have hvoid : d.atDocumentMark = false → isVoid c.rest = false := by
    intro hunmarked
    unfold isVoid
    rw [hfirst, List.all_cons, Bool.and_eq_false_iff, Bool.eq_false_iff]
    refine .inl fun hline => ?_
    cases hunmarked.symm.trans
      (h.atDocumentMark_of_isVoidLine hfirst hpre hword hcomment hd hends hcolumn hline)
  have hstart : (pre ++ ch :: line).dropWhile isBlank = ch :: line := by
    rw [List.dropWhile_append_of_pos hpre, List.dropWhile_cons_of_neg (by simp [hword])]
  have hidle : isIdleLine (pre ++ ch :: line) = true := h.idle _ (hfirst ▸ List.mem_cons_self)
  rcases word_of_isIdleLine hidle hstart with hspace | hhash | ⟨spaces, hspaces, hmark⟩
  · have hwide : isWide ch = true := isWide_iff.2 ⟨hspace, hword, hbreak⟩
    have hunmarked := atDocumentMark_wide hd hwide
    exact .scalar (hd ▸ .wide hwide) hunmarked (hvoid hunmarked)
  · exact absurd hhash hcomment
  · obtain ⟨rfl, rfl⟩ := List.cons.inj hmark
    cases hatMark : d.atDocumentMark with
    | false => exact .scalar (hd ▸ .hyphens) hatMark (hvoid hatMark)
    | true =>
      rw [atDocumentMark_hyphens hd, Bool.and_eq_true, beq_iff_eq, hcolumn] at hatMark
      obtain ⟨hzero, hendsWord⟩ := hatMark
      obtain ⟨hzero, hnil⟩ := Nat.add_eq_zero_iff.1 hzero
      cases List.length_eq_zero_iff.1 hnil
      have hadvanced : (d.advance 3).rest = spaces ++ after := by
        change d.rest.drop 3 = _
        rw [hd]
        rfl
      obtain ⟨hidle, hsame⟩ := h.after_mark hrest hfirst hspaces hadvanced
      exact .mark (by rw [hcolumn, hzero]) hd hendsWord hidle hsame

theorem skipComment_of_no_comment (h : c.rest.head? ≠ some '#') : c.skipComment = c := by
  unfold skipComment looksAt
  rw [if_neg (by simpa using h)]

theorem rest_skipComment {comment : List Char} (h : c.rest = '#' :: (comment ++ rest))
    (hcomment : Unbroken comment) (hends : endsLine rest = true) : c.skipComment.rest = rest := by
  have hlooks : c.looksAt '#' = true := by simp [looksAt, h]
  have hstart : ∀ x ∈ '#' :: comment, (!isBreak x) = true := by
    refine List.forall_mem_cons.2 ⟨rfl, fun x hx => ?_⟩
    rw [hcomment x hx]
    rfl
  unfold skipComment
  rw [if_pos hlooks, rest_skipWhile, h, ← List.cons_append, List.dropWhile_append_of_pos hstart]
  cases rest with
  | nil => rfl
  | cons b rest => exact List.dropWhile_cons_of_neg (by simp [show isBreak b = true from hends])

theorem passLine_cases (c : Cursor) (tabs : Bool) :
    (∃ line rest, c.rest = line ++ rest ∧ Unbroken line ∧ isEmptyLine line = true ∧
        endsLine rest = true ∧ (c.passLine tabs).rest = rest) ∨
      ∃ pre ch more, c.rest = pre ++ ch :: more ∧ (∀ x ∈ pre, isBlank x = true) ∧
        isBreak ch = false ∧ ch ≠ '#' ∧ (isBlank ch = true → ch = '\t') ∧
        (c.passLine tabs).rest = ch :: more ∧
        (c.passLine tabs).column = c.column + pre.length := by
  let p : Char → Bool := fun ch => ch == ' ' || (tabs && ch == '\t')
  let d := c.skipWhile p
  have hd : d.rest = c.rest.dropWhile p := rest_skipWhile c p
  have hrest : c.rest = c.rest.takeWhile p ++ c.rest.dropWhile p :=
    List.takeWhile_append_dropWhile.symm
  have hpre : ∀ x ∈ c.rest.takeWhile p, isBlank x = true := by
    intro x hx
    have hp := List.all_eq_true.1 List.all_takeWhile x hx
    simp only [p, Bool.or_eq_true, Bool.and_eq_true] at hp
    unfold isBlank
    rw [Bool.or_eq_true]
    exact hp.imp_right And.right
  have hunbroken : Unbroken (c.rest.takeWhile p) := fun x hx => not_isBreak_of_isBlank (hpre x hx)
  have hempty : isEmptyLine (c.rest.takeWhile p) = true :=
    isEmptyLine_iff.2 ⟨_, hpre, .inl rfl⟩
  have hstop := List.head?_dropWhile_not p c.rest
  have hpass : c.passLine tabs = d.skipComment := rfl
  rw [hpass]
  cases hleft : c.rest.dropWhile p with
  | nil =>
    rw [hleft] at hd hrest
    rw [skipComment_of_no_comment (by simp [hd])]
    exact .inl ⟨_, [], hrest, hunbroken, hempty, rfl, hd⟩
  | cons ch more =>
    rw [hleft] at hd hrest hstop
    by_cases hcomment : ch = '#'
    · subst hcomment
      obtain ⟨comment, rest, -, rfl, hmore, hends, -⟩ := exists_firstLine more
      refine .inl ⟨c.rest.takeWhile p ++ '#' :: comment, rest, ?_, ?_, ?_, hends, ?_⟩
      · rw [List.append_assoc]
        exact hrest
      · exact List.forall_mem_append.2 ⟨hunbroken, List.forall_mem_cons.2 ⟨rfl, hmore⟩⟩
      · exact isEmptyLine_iff.2 ⟨_, hpre, .inr ⟨comment, rfl⟩⟩
      · exact rest_skipComment hd hmore hends
    · rw [skipComment_of_no_comment (by simpa [hd] using hcomment)]
      cases hbreak : isBreak ch with
      | true => exact .inl ⟨_, ch :: more, hrest, hunbroken, hempty, hbreak, hd⟩
      | false =>
        refine .inr ⟨_, ch, more, hrest, hpre, hbreak, hcomment, fun hblank => ?_, hd, rfl⟩
        rcases Bool.or_eq_true_iff.1 hblank with heq | heq <;> cases eq_of_beq heq
        · cases hstop
        · rfl

theorem Idle.passLine (h : c.Idle) (tabs : Bool) :
    (∃ b rest, (c.passLine tabs).rest = b :: rest ∧ isBreak b = true ∧
        rest.length < c.rest.length ∧ (∀ l ∈ lines rest, isIdleLine l = true) ∧
        isVoid rest = isVoid c.rest) ∨
      ((c.passLine tabs).lineBreak? = none ∧ (c.passLine tabs).Halts (isVoid c.rest)) := by
  rcases c.passLine_cases tabs with ⟨line, rest, hc, hline, hempty, hends, hrest⟩ |
    ⟨pre, ch, more, hc, hpre, hbreak, hcomment, htab, hrest, hcolumn⟩
  · have hvoid : isVoidLine line = true := isVoidLine_iff.2 (.inl hempty)
    cases rest with
    | nil =>
      rw [List.append_nil] at hc
      refine .inr ⟨lineBreak?_of_no_break (by simp [hrest]), .done hrest ?_⟩
      rw [hc, isVoid_of_unbroken hline, hvoid]
    | cons b rest =>
      have hlines : lines c.rest = line :: lines rest := by rw [hc, lines_append_break hline hends]
      refine .inl ⟨b, rest, hrest, hends, ?_, fun l hl => h.idle l ?_, ?_⟩
      · rw [hc, List.length_append, List.length_cons]
        omega
      · exact hlines ▸ List.mem_cons_of_mem _ hl
      · rw [hc, isVoid_append_break hline hends, hvoid, Bool.true_and]
  · refine .inr ⟨lineBreak?_of_no_break (by simpa [hrest] using hbreak), ?_⟩
    cases hword : isBlank ch with
    | false => exact h.halts_of_word hc hpre hword hbreak hcomment hrest hcolumn
    | true => exact .tab (htab hword ▸ hrest)

theorem Idle.not_looksAt_byteOrderMark (h : c.Idle) : c.looksAt '\ufeff' = false := by
  rw [Bool.eq_false_iff]
  intro hlooks
  obtain ⟨more, hrest⟩ := List.head?_eq_some_iff.1 (eq_of_beq hlooks)
  obtain ⟨line, rest, others, rfl, -, -, hlines⟩ := exists_firstLine more
  have hmark : Unbroken ['\ufeff'] := by simp [Unbroken, isBreak]
  have hfirst : lines c.rest = ('\ufeff' :: line) :: others := hrest ▸ hlines _ hmark
  have hidle := h.idle _ (hfirst ▸ List.mem_cons_self)
  have hword : ('\ufeff' :: line).dropWhile isBlank = '\ufeff' :: line :=
    List.dropWhile_cons_of_neg (by simp [isBlank])
  rcases word_of_isIdleLine hidle hword with hspace | hhash | ⟨_, -, hmark⟩
  · cases hspace
  · cases hhash
  · cases (List.cons.inj hmark).1

/-- The start of the next line of an idle text. -/
theorem idle_of_column_eq_zero (hcolumn : c.column = 0)
    (hidle : ∀ l ∈ lines c.rest, isIdleLine l = true) : c.Idle :=
  ⟨hidle, fun hne => absurd hcolumn hne⟩

end Cursor

namespace TokenStream

/-- Nothing is open, and there are no tokens yet but the marks of documents. -/
def flat (marks : Nat) (c : Cursor) (keyAllowed : Bool) : TokenStream :=
  { cursor := c, tokens := Array.replicate marks .documentStart, keyAllowed }

variable {allowed : Bool} {fuel : Nat} {tokens : List Token}

theorem skipGap_flat_cons (hmark : c.looksAt '\ufeff' = false) (x : Char) (bound : List Char) :
    skipGap (x :: bound) (flat marks c allowed) =
      match (c.passLine !allowed).lineBreak? with
      | some (_, d) => skipGap bound (flat marks d true)
      | none => flat marks (c.passLine !allowed) allowed := by
  have hcursor : (flat marks c allowed).cursor.looksAt '\ufeff' = false := hmark
  rw [skipGap]
  simp only [hcursor, Bool.and_false]
  cases allowed <;> rfl

theorem skipGap_idle (h : c.Idle) (marks : Nat) (allowed : Bool) {bound : List Char}
    (hbound : c.rest.length ≤ bound.length) :
    ∃ d allowed', skipGap bound (flat marks c allowed) = flat marks d allowed' ∧
      d.Halts (isVoid c.rest) := by
  induction bound generalizing c allowed with
  | nil =>
    have hrest : c.rest = [] := List.length_eq_zero_iff.1 (Nat.le_zero.1 hbound)
    exact ⟨c, allowed, rfl, .done hrest (by rw [hrest]; rfl)⟩
  | cons x bound ih =>
    rw [skipGap_flat_cons h.not_looksAt_byteOrderMark]
    rcases h.passLine (!allowed) with ⟨b, rest, hrest, hb, hshorter, hidle, hvoid⟩ | ⟨hnone, hhalts⟩
    · obtain ⟨text, d, hnext, hcolumn, hd⟩ := Cursor.lineBreak?_of_break hrest hb
      rw [hnext]
      rw [List.length_cons] at hbound
      obtain ⟨hsame, hlength, hmem⟩ : isVoid d.rest = isVoid rest ∧ d.rest.length ≤ rest.length ∧
          ∀ l ∈ lines d.rest, l ∈ lines rest := by
        rcases hd with rfl | rfl
        · exact ⟨rfl, Nat.le_refl _, fun _ hl => hl⟩
        · refine ⟨(isVoid_append_break unbroken_nil (b := '\n') rfl d.rest).symm, Nat.le_succ _,
            fun l hl => ?_⟩
          rw [← List.nil_append ('\n' :: d.rest), lines_append_break unbroken_nil rfl]
          exact List.mem_cons_of_mem _ hl
      rw [← hvoid, ← hsame]
      exact ih (Cursor.idle_of_column_eq_zero hcolumn fun l hl => hidle l (hmem l hl)) true (by omega)
    · rw [hnone]
      exact ⟨_, allowed, rfl, hhalts⟩

theorem dropExpired_flat : (flat marks c allowed).dropExpired = some (flat marks c allowed) := rfl

theorem closeBlocks_flat (column : Nat) :
    (flat marks c allowed).closeBlocks column = flat marks c allowed := by
  simp [closeBlocks, flat, inFlow, unwind]

theorem endBlocks_flat : (flat marks c allowed).endBlocks = some (flat marks c false) := by
  simp [endBlocks, closeBlocks, flat, inFlow, unwind, forgetKey, allowKey]

theorem finish_flat : (flat marks c allowed).finish =
    some (List.replicate marks .documentStart ++ [.streamEnd]) := by
  rw [finish, endBlocks_flat]
  simp [push, flat]

theorem scanAt_tab (h : c.rest = '\t' :: more) :
    (flat marks c allowed).scanAt '\t' more = none := by
  have hunmarked : (flat marks c allowed).cursor.atDocumentMark = false := by
    change c.atDocumentMark = false
    unfold Cursor.atDocumentMark
    rw [h]
    unfold startsWithMark
    split
    · next heq =>
      cases heq
      simp
    · simp
  simp [scanAt, hunmarked, startsPlain, isBlank]

theorem scanAt_mark (h : c.rest = '-' :: '-' :: '-' :: more) (hcolumn : c.column = 0)
    (hends : endsWord more = true) :
    (flat marks c allowed).scanAt '-' ('-' :: '-' :: more) =
      some (flat (marks + 1) (c.advance 3) false) := by
  have hmarked : (flat marks c allowed).cursor.atDocumentMark = true := by
    change c.atDocumentMark = true
    rw [Cursor.atDocumentMark_hyphens h, hcolumn, hends]
    rfl
  unfold scanAt
  dsimp only
  rw [if_neg (by simp), if_pos hmarked, endBlocks_flat]
  simp [take, push, flat, Array.replicate_succ]

theorem scanAt_startsIdly (h : c.rest = ch :: more) (hstarts : StartsIdly c.rest)
    (hunmarked : c.atDocumentMark = false) :
    (flat marks c allowed).scanAt ch more = (flat marks c allowed).scanPlain := by
  have hmarked : (flat marks c allowed).cursor.atDocumentMark = false := hunmarked
  rw [h] at hstarts
  cases hstarts with
  | hyphens => simp [scanAt, hmarked, endsWord, startsPlain, isBlank, isBreak]
  | wide hwide =>
    have hne : ∀ {x}, isWide x = false → (ch == x) = false := by
      intro x hx
      rw [beq_eq_false_iff_ne]
      rintro rfl
      cases hx.symm.trans hwide
    obtain ⟨-, hblank, hbreak⟩ := isWide_iff.1 hwide
    have hplain : startsPlain (flat marks c allowed).inFlow ch more = true := by
      have hother : ch ∉ ",[]\x7b\x7d#&*!|>'\"%@\x60".toList := fun hmem => by
        have hnone : (",[]\x7b\x7d#&*!|>'\"%@\x60".toList.all fun x => !isWide x) = true := rfl
        simpa [hwide] using List.all_eq_true.1 hnone ch hmem
      unfold startsPlain
      rw [hne rfl, hne rfl, hne rfl]
      simpa [hblank, hbreak] using hother
    unfold scanAt
    dsimp only
    rw [hne rfl, Bool.and_false, if_neg Bool.false_ne_true, hmarked, if_neg Bool.false_ne_true]
    split
    iterate 10 cases hwide
    rw [hne rfl, hne rfl, hne rfl, hne rfl, hne rfl, hplain]
    rfl

theorem exists_opened_of_scanPlain {t : TokenStream} (h : StartsIdly c.rest)
    (hunmarked : c.atDocumentMark = false) (hs : (flat marks c allowed).scanPlain = some t) :
    ∃ text, StartsIdly text ∧ t.Opened marks text := by
  obtain ⟨s, hmark, hs⟩ := Option.bind_eq_some_iff.1 hs
  obtain ⟨⟨text, broken, d⟩, hplain, heq⟩ := Option.bind_eq_some_iff.1 hs
  cases heq
  have hsame : s.cursor = c ∧ s.inFlow = false ∧
      s.tokens.toList = List.replicate marks .documentStart ∧
      ∀ mark, some mark ∈ s.keys → marks ≤ mark.position := by
    cases allowed <;> cases hmark <;> simp [flat, inFlow]
  obtain ⟨hcursor, hflow, htokens, hkeys⟩ := hsame
  rw [hcursor, hflow] at hplain
  refine ⟨text, h.plainScalar hunmarked hplain, ⟨.scalar text true, [], ?_, .scalar⟩, hkeys⟩
  unfold push
  rw [Array.toList_push, htokens]

/-- An idle text that the scanner accepts is void and has no tokens but the marks of documents, or it
is not, and opens with a plain scalar. -/
theorem scan_idle (h : c.Idle) (hs : scan fuel (flat marks c allowed) = some tokens) :
    (isVoid c.rest = true ∧ ∃ n, tokens = List.replicate n .documentStart ++ [.streamEnd]) ∨
      (isVoid c.rest = false ∧ ∃ n text, StartsIdly text ∧ OpensWith n text tokens) := by
  induction fuel generalizing marks c allowed with
  | zero => cases hs
  | succ fuel ih =>
    obtain ⟨d, allowed', hgap, hhalts⟩ := skipGap_idle h marks allowed (Nat.le_refl _)
    obtain ⟨s, hs', hs⟩ := Option.bind_eq_some_iff.1 hs
    have hcursor : (flat marks c allowed).cursor = c := rfl
    rw [hcursor, hgap, dropExpired_flat] at hs'
    cases hs'
    cases hhalts with
    | done hrest hvoid =>
      have hd : (flat marks d allowed').cursor.rest = [] := hrest
      simp only [hd, finish_flat] at hs
      cases hs
      exact .inl ⟨hvoid, marks, rfl⟩
    | @tab more hrest =>
      have hd : (flat marks d allowed').cursor.rest = '\t' :: more := hrest
      simp only [hd, closeBlocks_flat, scanAt_tab hrest] at hs
      cases hs
    | @mark more hcolumn hrest hends hidle hvoid =>
      have hd : (flat marks d allowed').cursor.rest = '-' :: '-' :: '-' :: more := hrest
      simp only [hd, closeBlocks_flat, scanAt_mark hrest hcolumn hends] at hs
      have hmore : (d.advance 3).rest = more := by
        change d.rest.drop 3 = more
        rw [hrest]
        rfl
      rw [← hvoid, ← hmore]
      exact ih hidle hs
    | scalar hstarts hunmarked hvoid =>
      cases hrest : d.rest with
      | nil =>
        rw [hrest] at hstarts
        cases hstarts
      | cons ch more =>
        have hd : (flat marks d allowed').cursor.rest = ch :: more := hrest
        simp only [hd, closeBlocks_flat, scanAt_startsIdly hrest hstarts hunmarked] at hs
        obtain ⟨t, ht, hs⟩ := Option.bind_eq_some_iff.1 hs
        obtain ⟨text, htext, hopened⟩ := exists_opened_of_scanPlain hstarts hunmarked ht
        exact .inr ⟨hvoid, marks, text, htext, hopened.scan hs⟩

end TokenStream

/-- Of a text of idle lines, YAML reads null exactly if every line is void. -/
theorem eq_null_iff_isVoid {content : List Char} {v : Value}
    (hidle : ∀ l ∈ lines content, isIdleLine l = true) (hread : read content = some v) :
    v = .null ↔ isVoid content = true := by
  obtain ⟨tokens, htokens, hread⟩ := Option.bind_eq_some_iff.1 hread
  obtain ⟨root, hroot, hvalue⟩ := Option.bind_eq_some_iff.1 hread
  unfold Token.ofText? at htokens
  split at htokens
  · have hstart : ({ rest := content } : Cursor).Idle := Cursor.idle_of_column_eq_zero rfl hidle
    have hscan : TokenStream.scan (content.length + 1)
        (TokenStream.flat 0 { rest := content } true) = some tokens := htokens
    rcases TokenStream.scan_idle hstart hscan with ⟨hvoid, n, rfl⟩ | ⟨hvoid, n, text, hstarts, hopens⟩
    · refine iff_of_true ?_ hvoid
      rcases Node.none_or_empty_of_marks hroot with rfl | rfl
      · cases hvalue
        rfl
      · cases (Node.toValue?_scalar []).symm.trans hvalue
        rfl
    · refine iff_of_false ?_ (by simp [show isVoid content = false from hvoid])
      rintro rfl
      rcases Node.scalar_or_mapping_of_opensWith hopens hroot with rfl | ⟨entries, rfl⟩
      · exact hstarts.plainValue_ne_null ((Node.toValue?_scalar text).symm.trans hvalue)
      · exact Node.toValue?_mapping_ne_null entries hvalue
  · cases htokens

end PluginHost.Yaml
