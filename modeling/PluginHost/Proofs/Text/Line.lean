import PluginHost.Text.Blank

/-!
Texts as lines and as bytes. A text is the lines before a place, if they are whole, and those from there
on; white space around a text is a part before it and one after it.
-/
namespace PluginHost.Text

variable {cs : List Char}

theorem trimStart_cons {c : Char} (hc : isSpace c = false) (cs : List Char) :
    trimStart (c :: cs) = c :: cs :=
  List.dropWhile_cons_of_neg (by simp [hc])

theorem trimEnd_append_cons {c : Char} (hc : isSpace c = false) (xs ys : List Char) :
    trimEnd (xs ++ c :: ys) = xs ++ c :: trimEnd ys := by
  have hcons : (c :: xs.reverse).dropWhile isSpace = c :: xs.reverse :=
    List.dropWhile_cons_of_neg (by simp [hc])
  unfold trimEnd
  rw [List.reverse_append, List.reverse_cons, List.append_assoc, List.singleton_append,
    List.dropWhile_append, hcons]
  split
  · next hempty => simp [List.isEmpty_iff.1 hempty]
  · simp

theorem trimStart_append {blanks : List Char} (h : ∀ c ∈ blanks, isSpace c = true)
    (cs : List Char) : trimStart (blanks ++ cs) = trimStart cs :=
  List.dropWhile_append_of_pos h

theorem trimEnd_of_blanks (h : ∀ c ∈ cs, isSpace c = true) : trimEnd cs = [] := by
  have hreverse : ∀ c ∈ cs.reverse, isSpace c = true := by simpa using h
  have hnone := trimStart_append hreverse []
  rw [List.append_nil] at hnone
  exact congrArg List.reverse hnone

theorem exists_blanks_before (cs : List Char) :
    ∃ blanks, cs = blanks ++ trimStart cs ∧ ∀ c ∈ blanks, isSpace c = true :=
  ⟨cs.takeWhile isSpace, List.takeWhile_append_dropWhile.symm,
    List.all_eq_true.1 List.all_takeWhile⟩

theorem exists_blanks_after (cs : List Char) :
    ∃ blanks, cs = trimEnd cs ++ blanks ∧ ∀ c ∈ blanks, isSpace c = true := by
  obtain ⟨blanks, hcs, hblanks⟩ := exists_blanks_before cs.reverse
  refine ⟨blanks.reverse, ?_, by simpa using hblanks⟩
  unfold trimEnd
  rw [← List.reverse_append]
  exact List.reverse_eq_iff.1 hcs

theorem trim_of_no_blank (h : ∀ c ∈ cs, isSpace c = false) : trim cs = cs := by
  have hdrop : ∀ ds : List Char, (∀ c ∈ ds, isSpace c = false) → ds.dropWhile isSpace = ds := by
    rintro (_ | ⟨c, ds⟩) hds
    · rfl
    · exact trimStart_cons (hds c List.mem_cons_self) ds
  unfold trim trimEnd trimStart
  rw [hdrop cs h, hdrop cs.reverse (by simpa using h), List.reverse_reverse]

/-! Bytes. -/

theorem byteLength_append (xs ys : List Char) :
    byteLength (xs ++ ys) = byteLength xs + byteLength ys := by
  induction xs with
  | nil => simp [byteLength]
  | cons c xs ih => simp [byteLength, ih, Nat.add_assoc]

theorem byteLength_toList (s : String) : byteLength s.toList = s.utf8ByteSize := by
  have hofList : ∀ cs, byteLength cs = (String.ofList cs).utf8ByteSize := by
    intro cs
    induction cs with
    | nil => rfl
    | cons c cs ih => simp [byteLength, ih, String.ofList_cons]
  simpa using hofList s.toList

/-! Lines. -/

/-- Nothing, or a text that closes its last line. -/
def WholeLines (cs : List Char) : Prop := ∀ c, cs.getLast? = some c → c = '\n'

theorem WholeLines.tail {c : Char} (h : WholeLines (c :: cs)) : WholeLines cs := by
  intro d hd
  exact h d (by rw [List.getLast?_cons, hd]; rfl)

theorem linesKept_cons_of_ne {c : Char} (hc : c ≠ '\n') {line : List Char} {lines : List (List Char)}
    (h : linesKept cs = line :: lines) : linesKept (c :: cs) = (c :: line) :: lines := by
  simp [linesKept, hc, h]

theorem linesKept_append_of_not_mem {part line : List Char} {lines : List (List Char)}
    (hpart : '\n' ∉ part) (h : linesKept cs = line :: lines) :
    linesKept (part ++ cs) = (part ++ line) :: lines := by
  induction part with
  | nil => exact h
  | cons c part ih =>
    rw [List.mem_cons, not_or] at hpart
    exact linesKept_cons_of_ne (Ne.symm hpart.1) (ih hpart.2)

theorem exists_linesKept_cons {c : Char} (hc : c ≠ '\n') (cs : List Char) :
    ∃ line lines, linesKept (c :: cs) = (c :: line) :: lines := by
  cases h : linesKept cs with
  | nil => exact ⟨[], [], by simp [linesKept, hc, h]⟩
  | cons line lines => exact ⟨line, lines, linesKept_cons_of_ne hc h⟩

theorem linesKept_append {above : List Char} (h : WholeLines above) (cs : List Char) :
    linesKept (above ++ cs) = linesKept above ++ linesKept cs := by
  induction above with
  | nil => rfl
  | cons c above ih =>
    by_cases hc : c = '\n'
    · simp [linesKept, hc, ih h.tail]
    · cases above with
      | nil => exact absurd (h c rfl) hc
      | cons d above =>
        cases hd : linesKept (d :: above) with
        | nil =>
          have hflatten := flatten_linesKept (d :: above)
          rw [hd] at hflatten
          cases hflatten
        | cons line lines =>
          have hrest : linesKept (d :: above ++ cs) = line :: (lines ++ linesKept cs) := by
            rw [ih h.tail, hd, List.cons_append]
          rw [linesKept_cons_of_ne hc hd, List.cons_append, linesKept_cons_of_ne hc hrest,
            List.cons_append]

theorem of_linesKept_eq_cons {line : List Char} {lines : List (List Char)}
    (h : linesKept cs = line :: lines) :
    linesKept lines.flatten = lines ∧ ∃ init, '\n' ∉ init ∧
      (line = init ++ ['\n'] ∨ line = init ∧ lines = []) := by
  induction cs generalizing line with
  | nil => cases h
  | cons c cs ih =>
    by_cases hc : c = '\n'
    · simp only [linesKept, hc, if_true, List.cons.injEq] at h
      obtain ⟨rfl, rfl⟩ := h
      rw [flatten_linesKept]
      exact ⟨rfl, [], List.not_mem_nil, .inl rfl⟩
    · cases hcs : linesKept cs with
      | nil =>
        simp only [linesKept, hc, if_false, hcs, List.cons.injEq] at h
        obtain ⟨rfl, rfl⟩ := h
        exact ⟨rfl, [c], by simpa using Ne.symm hc, .inr ⟨rfl, rfl⟩⟩
      | cons first rest =>
        rw [linesKept_cons_of_ne hc hcs, List.cons.injEq] at h
        obtain ⟨rfl, rfl⟩ := h
        obtain ⟨hlines, init, hinit, hline⟩ := ih hcs
        refine ⟨hlines, c :: init, by simp [Ne.symm hc, hinit], ?_⟩
        exact hline.imp (congrArg (c :: ·)) (And.imp_left (congrArg (c :: ·)))

theorem not_mem_of_linesKept_eq_cons {part rest : List Char} {c : Char} {lines : List (List Char)}
    (h : linesKept cs = (part ++ c :: rest) :: lines) : '\n' ∉ part := by
  obtain ⟨-, init, hinit, hline | ⟨hline, -⟩⟩ := of_linesKept_eq_cons h
  · have hpart := congrArg List.dropLast hline
    rw [List.dropLast_append_of_ne_nil (List.cons_ne_nil c rest), List.dropLast_concat] at hpart
    rw [← hpart, List.mem_append, not_or] at hinit
    exact hinit.1
  · rw [← hline, List.mem_append, not_or] at hinit
    exact hinit.1

theorem linesKept_flatten_of_append {above below : List (List Char)} {line : List Char}
    (h : linesKept cs = above ++ line :: below) :
    WholeLines above.flatten ∧ linesKept above.flatten = above ∧
      linesKept (line :: below).flatten = line :: below := by
  induction above generalizing cs with
  | nil =>
    rw [List.nil_append] at h
    rw [← h, flatten_linesKept]
    exact ⟨nofun, rfl, rfl⟩
  | cons first above ih =>
    obtain ⟨hrest, init, hinit, hfirst⟩ := of_linesKept_eq_cons h
    obtain ⟨hwhole, habove, hbelow⟩ := ih hrest
    obtain rfl : first = init ++ ['\n'] := hfirst.resolve_right (by simp)
    have hend : WholeLines (init ++ ['\n']) := by simp [WholeLines]
    refine ⟨fun c hc => ?_, ?_, hbelow⟩
    · rw [List.flatten_cons, List.getLast?_append] at hc
      cases hlast : above.flatten.getLast? with
      | none => simpa [hlast, eq_comm] using hc
      | some d => exact hwhole c (by simpa [hlast] using hc)
    · rw [List.flatten_cons, linesKept_append hend, habove,
        linesKept_append_of_not_mem hinit (by rfl : linesKept ['\n'] = [['\n']])]
      rfl

end PluginHost.Text
