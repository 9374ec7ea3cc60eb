import PluginHost.Proofs.Yaml.Line

/-!
The plain scalars of idle lines. White space of another kind or two hyphens stand at the start of each,
and nothing that starts so is null.
-/
namespace PluginHost.Yaml

open Text Format

inductive StartsIdly : List Char → Prop
  | wide {ch : Char} {rest : List Char} (h : isWide ch = true) : StartsIdly (ch :: rest)
  | hyphens {rest : List Char} : StartsIdly ('-' :: '-' :: rest)

instance : DecidablePred StartsIdly
  | [] => .isFalse nofun
  | ch :: rest =>
    decidable_of_iff (isWide ch = true ∨ ch = '-' ∧ rest.head? = some '-') <| by
      constructor
      · rintro (h | ⟨rfl, h⟩)
        · exact .wide h
        · obtain ⟨more, rfl⟩ := List.head?_eq_some_iff.1 h
          exact .hyphens
      · rintro (h | _)
        · exact .inl h
        · exact .inr ⟨rfl, rfl⟩

variable {c : Cursor} {ch b : Char} {text pre rest : List Char}

theorem isWide_iff : isWide ch = true ↔
    isSpace ch = true ∧ isBlank ch = false ∧ isBreak ch = false := by
  simp [isWide, and_assoc]

theorem StartsIdly.append (h : StartsIdly pre) (rest : List Char) : StartsIdly (pre ++ rest) := by
  cases h with
  | wide h => exact .wide h
  | hyphens => exact .hyphens

theorem StartsIdly.ne_of_isWide_eq_false (h : StartsIdly (ch :: rest)) (hx : isWide b = false)
    (hhyphen : b ≠ '-') : ch ≠ b := by
  rintro rfl
  cases h with
  | wide h => cases hx.symm.trans h
  | hyphens => exact hhyphen rfl

theorem plainWord_cons (hblank : isBlank ch = false) (hbreak : isBreak ch = false) (hcolon : ch ≠ ':')
    (rest : List Char) : plainWord false (ch :: rest) = (plainWord false rest).map (ch :: ·) := by
  simp [plainWord, hblank, hbreak, hcolon]

theorem StartsIdly.plainWord {word : List Char} (h : StartsIdly text)
    (hword : plainWord false text = some word) : StartsIdly word := by
  cases h with
  | @wide ch rest h =>
    obtain ⟨-, hblank, hbreak⟩ := isWide_iff.1 h
    have hcolon : ch ≠ ':' := by
      rintro rfl
      cases h
    rw [plainWord_cons hblank hbreak hcolon] at hword
    obtain ⟨more, -, rfl⟩ := Option.map_eq_some_iff.1 hword
    exact .wide h
  | hyphens =>
    rw [plainWord_cons rfl rfl (by decide), plainWord_cons rfl rfl (by decide)] at hword
    obtain ⟨more, hmore, rfl⟩ := Option.map_eq_some_iff.1 hword
    obtain ⟨rest, -, rfl⟩ := Option.map_eq_some_iff.1 hmore
    exact .hyphens

theorem StartsIdly.plainScalar {broken : Bool} {indent : Int} {d : Cursor}
    (h : StartsIdly c.rest) (hunmarked : c.atDocumentMark = false)
    (hs : plainScalar false indent c.rest {} c = some (text, broken, d)) : StartsIdly text := by
  cases hrest : c.rest with
  | nil =>
    rw [hrest] at h
    cases h
  | cons ch more =>
    have hcomment : c.looksAt '#' = false := by
      rw [hrest] at h
      simpa [Cursor.looksAt, hrest] using h.ne_of_isWide_eq_false rfl (by decide)
    rw [hrest] at hs
    unfold Yaml.plainScalar at hs
    rw [hunmarked, hcomment, Bool.or_self, if_neg Bool.false_ne_true] at hs
    obtain ⟨word, hword, hs⟩ := Option.bind_eq_some_iff.1 hs
    have hstarts := h.plainWord hword
    have hne : word.isEmpty = false := by cases hstarts <;> rfl
    simp only [hne] at hs
    split at hs
    · cases hs
      exact hstarts
    · split at hs
      · cases hs
        exact hstarts
      · obtain ⟨gap, -, hs⟩ := Option.bind_eq_some_iff.1 hs
        split at hs
        · cases hs
          exact hstarts
        · obtain ⟨more, -, heq⟩ := Option.bind_eq_some_iff.1 hs
          cases heq
          exact hstarts.append more.1

/-! Such a scalar is none of the words for null, nor one for a number that is not finite. -/

theorem StartsIdly.not_mem_words (h : StartsIdly text) {words : List String}
    (hwords : ∀ w ∈ words, ¬StartsIdly w.toList) :
    (words.any fun w => w.toList == text) = false := by
  rw [Bool.eq_false_iff]
  intro hany
  obtain ⟨w, hw, heq⟩ := List.any_eq_true.1 hany
  rw [← eq_of_beq heq] at h
  exact hwords w hw h

theorem StartsIdly.isFinite_of_float? (h : StartsIdly text) {x : Binary64}
    (hx : float? text = some x) : x.isFinite = true := by
  unfold float? at hx
  split at hx
  iterate 3
    cases h with
    | wide h => cases h
  dsimp only at hx
  rw [h.not_mem_words (by decide), if_neg Bool.false_ne_true, h.not_mem_words (by decide),
    if_neg Bool.false_ne_true, h.not_mem_words (by decide), if_neg Bool.false_ne_true] at hx
  exact (Option.filter_eq_some_iff.1 hx).2

theorem wholeNumber_ne_null : wholeNumber text ≠ some (some .null) := by
  unfold wholeNumber
  split
  · split
    · simp
    · split <;> simp
  · simp

theorem StartsIdly.plainValue_ne_null (h : StartsIdly text) : plainValue text ≠ some .null := by
  have hnull : isNullWord text = false := h.not_mem_words (by decide)
  have hempty : text.isEmpty = false := by cases h <;> rfl
  unfold plainValue
  rw [hnull, hempty, Bool.or_self, if_neg Bool.false_ne_true]
  split
  · simp
  · intro hvalue
    obtain ⟨whole, hwhole, hvalue⟩ := Option.bind_eq_some_iff.1 hvalue
    cases whole with
    | some v =>
      cases hvalue
      exact wholeNumber_ne_null hwhole
    | none =>
      simp only at hvalue
      split at hvalue
      · next x hx =>
        have hfinite := h.isFinite_of_float? (Option.ite_none_left_eq_some.1 hx).2
        simp [Value.ofFloat, hfinite] at hvalue
      · cases hvalue

end PluginHost.Yaml
