import PluginHost.Definition
import PluginHost.Keyed.Lemmas

/-!
What a definition that was read from a document is made of.
-/
namespace PluginHost.Definition

def reservedKeys (idKey : String) : List String := [idKey, "class", "deriver", "provider", "source"]

def remaining (idKey : String) (fields : KeyedMap Value) : KeyedMap Value :=
  (reservedKeys idKey).foldl KeyedMap.erase fields

theorem get?_foldl_erase {α : Type} {keys : List String} {m : KeyedMap α} {key : String} :
    (keys.foldl KeyedMap.erase m).get? key = if key ∈ keys then none else m.get? key := by
  induction keys generalizing m with
  | nil => simp
  | cons k rest ih =>
    rw [List.foldl_cons, ih, KeyedMap.get?_erase]
    by_cases hrest : key ∈ rest
    · simp [hrest]
    · simp [hrest, eq_comm]

theorem get?_remaining (idKey : String) (fields : KeyedMap Value) (key : String) :
    (remaining idKey fields).get? key =
      if key ∈ reservedKeys idKey then none else fields.get? key :=
  get?_foldl_erase

theorem readId_eq_ok_iff {idKey id : String} {value : Option Value} :
    readId idKey value = .ok id ↔ value = some (.str id) ∧ Text.isBlank id = false := by
  unfold readId
  split
  · next text =>
    cases h : Text.isBlank text with
    | true =>
      simp only [if_true]
      constructor
      · intro hthrow
        cases hthrow
      · rintro ⟨heq, hblank⟩
        cases heq
        cases h.symm.trans hblank
    | false =>
      simp only [Bool.false_eq_true, if_false]
      constructor
      · intro hpure
        cases hpure
        exact ⟨rfl, h⟩
      · rintro ⟨heq, -⟩
        cases heq
        rfl
  · next hother =>
    constructor
    · intro hthrow
      cases hthrow
    · rintro ⟨heq, -⟩
      cases heq
      exact absurd rfl (hother id)
  · constructor
    · intro hthrow
      cases hthrow
    · rintro ⟨heq, -⟩
      cases heq

variable {document : Value} {idKey provider : String} {source : Path} {d : Definition}

/-- Reading a document succeeds where its parts can be read, each from what the parts before it
left. -/
theorem ofDocument_eq_ok_iff :
    ofDocument document idKey provider source = .ok d ↔
      ∃ fields, document = .obj fields ∧
        let fields := KeyedMap.ofList fields
        readId idKey (fields.get? idKey) = .ok d.id ∧
        readOptionalText "class" ((fields.erase idKey).get? "class") = .ok d.className ∧
        readOptionalText "deriver" (((fields.erase idKey).erase "class").get? "deriver") =
          .ok d.deriver ∧
        d.provider = provider ∧ d.source = some source ∧ d.metadata = remaining idKey fields := by
  cases document with
  | obj fields =>
    simp only [ofDocument, bind, Except.bind, pure, Except.pure]
    generalize hfields : KeyedMap.ofList fields = m
    constructor
    · intro h
      refine ⟨fields, rfl, ?_⟩
      rw [hfields]
      split at h
      · cases h
      · next id hid =>
        split at h
        · cases h
        · next className hclass =>
          split at h
          · cases h
          · next deriver hderiver =>
            cases h
            exact ⟨hid, hclass, hderiver, rfl, rfl, rfl⟩
    · rintro ⟨_, heq, hid, hclass, hderiver, rfl, hsource, hmetadata⟩
      cases heq
      rw [hfields] at hid hclass hderiver hmetadata
      rw [hid, hclass, hderiver, ← hsource]
      dsimp only
      congr
      exact hmetadata.symm
  | null | bool | int | float | str | arr =>
    constructor
    · intro h
      cases h
    · rintro ⟨_, heq, -⟩
      cases heq

theorem isBlank_id_of_ofDocument (h : ofDocument document idKey provider source = .ok d) :
    Text.isBlank d.id = false := by
  obtain ⟨fields, -, hid, -⟩ := ofDocument_eq_ok_iff.1 h
  exact (readId_eq_ok_iff.1 hid).2

theorem get?_metadata_of_ofDocument (h : ofDocument document idKey provider source = .ok d)
    {key : String} (hkey : key ∈ reservedKeys idKey) : d.metadata.get? key = none := by
  obtain ⟨fields, -, -, -, -, -, -, hmetadata⟩ := ofDocument_eq_ok_iff.1 h
  rw [hmetadata, get?_remaining, if_pos hkey]

end PluginHost.Definition
