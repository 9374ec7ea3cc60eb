import PluginHost.OsText

/-!
What reading, showing and joining do to the bytes of a text. A text in UTF-8 is read and shown as
it is.
-/
namespace PluginHost.OsText

@[simp]
theorem bytes_append (a b : OsText) : (a ++ b).bytes = a.bytes ++ b.bytes := rfl

theorem bytes_inj {a b : OsText} : a.bytes = b.bytes ↔ a = b := by
  cases a
  cases b
  simp

theorem append_assoc (a b c : OsText) : a ++ b ++ c = a ++ (b ++ c) := by
  rw [← bytes_inj]
  simp

theorem append_right_inj (a : OsText) {b c : OsText} : a ++ b = a ++ c ↔ b = c := by
  simp only [← bytes_inj, bytes_append, List.append_cancel_left_eq]

theorem bytes_ofString (s : String) :
    (ofString s).bytes = s.toList.flatMap String.utf8EncodeChar := by
  unfold ofString
  rw [String.toUTF8_eq_toByteArray, ← String.utf8Encode_toList, List.utf8Encode,
    List.toList_data_toByteArray]

theorem utf8?_ofString (s : String) : (ofString s).utf8? = some s := by
  have hbytes : (⟨(ofString s).bytes.toArray⟩ : ByteArray) = s.toUTF8 := by simp [ofString]
  have hvalid : s.toUTF8.IsValidUTF8 := s.isValidUTF8
  unfold utf8? String.fromUTF8?
  rw [hbytes, dif_pos hvalid]
  rfl

theorem utf8?_eq_some_iff {t : OsText} {s : String} : t.utf8? = some s ↔ t = ofString s := by
  refine ⟨fun h => ?_, fun h => h ▸ utf8?_ofString s⟩
  unfold utf8? String.fromUTF8? at h
  split at h
  · rw [← bytes_inj, ← Option.some.inj h]
    rfl
  · cases h

theorem hasSuffix_iff {t : OsText} {suffix : String} :
    t.hasSuffix suffix = true ↔ ∃ s, t = ofString s ∧ s.endsWith suffix = true := by
  unfold hasSuffix
  simp only [Option.any_eq_true, utf8?_eq_some_iff]

theorem ofString_inj {a b : String} : ofString a = ofString b ↔ a = b := by
  refine ⟨fun h => ?_, congrArg ofString⟩
  have hread := congrArg utf8? h
  rw [utf8?_ofString, utf8?_ofString] at hread
  exact Option.some.inj hread

theorem charsFrom_length_append (skipped rest : List UInt8) :
    charsFrom skipped.length (skipped ++ rest) = charsFrom 0 rest := by
  induction skipped with
  | nil => rfl
  | cons byte skipped ih => exact ih

theorem charsFrom_encoded (c : Char) (rest : List UInt8) :
    charsFrom 0 (String.utf8EncodeChar c ++ rest) = c :: charsFrom 0 rest := by
  have hlength := String.length_utf8EncodeChar c
  have hread : ByteArray.utf8DecodeChar? ⟨(String.utf8EncodeChar c ++ rest).toArray⟩ 0 = some c := by
    rw [← @ByteArray.utf8DecodeChar?_utf8EncodeChar_append rest.toByteArray c]
    congr 1
    ext1
    simp
  obtain ⟨first, more, hbytes⟩ : ∃ first more, String.utf8EncodeChar c = first :: more :=
    List.exists_cons_of_length_pos (hlength ▸ c.utf8Size_pos)
  rw [hbytes, List.cons_append] at hread ⊢
  have hmore : more.length = c.utf8Size - 1 := by
    rw [← hlength, hbytes, List.length_cons, Nat.add_sub_cancel]
  simp only [charsFrom, hread, ← hmore, charsFrom_length_append]

theorem charsFrom_flatMap_utf8EncodeChar (cs : List Char) :
    charsFrom 0 (cs.flatMap String.utf8EncodeChar) = cs := by
  induction cs with
  | nil => rfl
  | cons c cs ih => rw [List.flatMap_cons, charsFrom_encoded, ih]

theorem display_ofString (s : String) : (ofString s).display = s := by
  unfold display
  rw [bytes_ofString, charsFrom_flatMap_utf8EncodeChar, String.ofList_toList]

theorem ofString_append (a b : String) : ofString (a ++ b) = ofString a ++ ofString b := by
  rw [← bytes_inj, bytes_append, bytes_ofString, bytes_ofString, bytes_ofString,
    String.toList_append, List.flatMap_append]

/-! Texts in UTF-8, which are told apart by how they are shown. -/

def InUtf8 (t : OsText) : Prop := ∃ s, t = ofString s

theorem InUtf8.append {a b : OsText} (ha : a.InUtf8) (hb : b.InUtf8) : (a ++ b).InUtf8 := by
  obtain ⟨s, rfl⟩ := ha
  obtain ⟨t, rfl⟩ := hb
  exact ⟨s ++ t, (ofString_append s t).symm⟩

theorem inUtf8_intercalate {separator : OsText} (hseparator : separator.InUtf8) {texts : List OsText}
    (h : ∀ t ∈ texts, t.InUtf8) : (intercalate separator texts).InUtf8 := by
  induction texts with
  | nil => exact ⟨"", rfl⟩
  | cons first rest ih =>
    obtain ⟨hfirst, hrest⟩ := List.forall_mem_cons.1 h
    cases rest with
    | nil =>
      have hsingle : intercalate separator [first] = first := by simp [intercalate]
      rw [hsingle]
      exact hfirst
    | cons next rest =>
      have hmore : intercalate separator (first :: next :: rest) =
          first ++ separator ++ intercalate separator (next :: rest) := by
        simp [← bytes_inj, intercalate]
      rw [hmore]
      exact (hfirst.append hseparator).append (ih hrest)

theorem InUtf8.eq_of_display_eq {a b : OsText} (ha : a.InUtf8) (hb : b.InUtf8)
    (h : a.display = b.display) : a = b := by
  obtain ⟨s, rfl⟩ := ha
  obtain ⟨t, rfl⟩ := hb
  rw [display_ofString, display_ofString] at h
  rw [h]

end PluginHost.OsText
