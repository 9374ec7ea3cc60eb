import PluginHost.Definition.Flat
import PluginHost.Proofs.Definition
import PluginHost.Proofs.Except
import PluginHost.Proofs.Path

/-!
Definitions written in flat form and read back. Metadata lies over the definition's own fields and
is taken for them when the form is read, so a definition comes back as it was exactly if its source
can be written and none of its metadata has the name of a field. Definitions from documents can have
such metadata under one name: that of the id, where the document holds its id under another key.
-/
namespace PluginHost

namespace Definition

open Keyed (Ordered)

def fieldKeys : List String := ["id", "provider", "class", "deriver", "source"]

/-- A text can be given for the source, if there is one. -/
def HasSourceText (d : Definition) (text : Option String) : Prop := d.source = text.map Path.ofString

def overlay (d : Definition) (source : Option String) : KeyedMap Value :=
  d.metadata.entries.foldl (fun m e => m.insert e.1 e.2) (d.ownFields source)

theorem mapM_written_eq_ok_iff {d : Definition} {text : Option String} :
    d.source.mapM Path.written = .ok text ↔ d.HasSourceText text := by
  unfold HasSourceText
  cases d.source with
  | none => cases text <;> simp [pure, Except.pure]
  | some source =>
    change (some <$> source.written) = Except.ok text ↔ _
    rw [show (some <$> source.written) = source.written.map some from rfl, Except.map_eq_ok_iff]
    simp only [Path.written_eq_ok_iff]
    cases text <;> simp [eq_comm]

theorem toFlat_of_hasSourceText {d : Definition} {text : Option String} (h : d.HasSourceText text) :
    d.toFlat = .ok (.ofMap (d.overlay text)) := by
  unfold toFlat
  rw [mapM_written_eq_ok_iff.2 h]
  rfl

theorem hasSourceText_of_toFlat {d : Definition} {flat : Value} (h : d.toFlat = .ok flat) :
    ∃ text, d.HasSourceText text ∧ flat = .ofMap (d.overlay text) := by
  obtain ⟨text, htext, -⟩ := Except.bind_eq_ok_iff.1 h
  rw [mapM_written_eq_ok_iff] at htext
  exact ⟨text, htext, Except.ok.inj (h.symm.trans (toFlat_of_hasSourceText htext))⟩

theorem get?_ownFields_of_not_mem {d : Definition} (source : Option String) {key : String}
    (h : key ∉ fieldKeys) : (d.ownFields source).get? key = none := by
  obtain ⟨hid, hprovider, hclass, hderiver, hsource⟩ :
      key ≠ "id" ∧ key ≠ "provider" ∧ key ≠ "class" ∧ key ≠ "deriver" ∧ key ≠ "source" := by
    simpa [fieldKeys] using h
  unfold ownFields
  cases d.className <;> cases d.deriver <;> cases source <;>
    simp [hid.symm, hprovider.symm, hclass.symm, hderiver.symm, hsource.symm]

theorem get?_overlay (d : Definition) (source : Option String) (key : String) :
    (d.overlay source).get? key = (d.metadata.get? key).or ((d.ownFields source).get? key) := by
  have hentries : ∀ (es : List (String × Value)) (m : KeyedMap Value),
      (es.foldl (fun m e => m.insert e.1 e.2) m).entries =
        es.foldl (fun acc e => Keyed.insert e.1 e.2 acc) m.entries := by
    intro es
    induction es with
    | nil => exact fun m => rfl
    | cons e rest ih => exact fun m => ih (m.insert e.1 e.2)
  unfold KeyedMap.get? overlay
  rw [hentries, Keyed.get?_foldl_insert d.metadata.ordered]

/-! The keys of a flat object in order are its fields, one after the other, and the rest. -/

/-- A field is what stands under its name, or what it was if nothing does. -/
def field (read : Value → Except ShapeFault (Option String)) (old : Option String) :
    Option Value → Except ShapeFault (Option String)
  | none => pure old
  | some v => read v

def requiredText (v : Value) : Except ShapeFault (Option String) := do
  pure (some (← textOf "a string" v))

/-- Each field read from where it stands among the entries. Of several unfit ones the first in key
order is reported. -/
def Draft.read (p : Draft) (entries : List (String × Value)) : Except ShapeFault Draft := do
  let className ← field (optionalTextOf "a string") p.className (Keyed.get? "class" entries)
  let deriver ← field (optionalTextOf "a string") p.deriver (Keyed.get? "deriver" entries)
  let id ← field requiredText p.id (Keyed.get? "id" entries)
  let provider ← field requiredText p.provider (Keyed.get? "provider" entries)
  let source ← field (optionalTextOf "path string") p.source (Keyed.get? "source" entries)
  pure { id, provider, className, deriver, source,
         metadata := p.metadata ++ entries.filter fun e => e.1 ∉ fieldKeys }

theorem Draft.add_id (p : Draft) (v : Value) :
    p.add "id" v = requiredText v >>= fun t => pure { p with id := t } := by
  simp [Draft.add, requiredText]

theorem Draft.add_provider (p : Draft) (v : Value) :
    p.add "provider" v = requiredText v >>= fun t => pure { p with provider := t } := by
  simp [Draft.add, requiredText]

theorem Draft.add_other {key : String} (hkey : key ∉ fieldKeys) (p : Draft) (v : Value) :
    p.add key v = pure { p with metadata := p.metadata ++ [(key, v)] } := by
  unfold Draft.add
  split <;> simp_all [fieldKeys]

/-- A field is read where it stands if those before it in key order do not come later. -/
theorem Draft.read_cons_field {key : String} (hkey : key ∈ fieldKeys) (value : Value)
    {rest : List (String × Value)} (hrest : ∀ k, ¬key < k → Keyed.get? k rest = none) (p : Draft) :
    p.read ((key, value) :: rest) = p.add key value >>= fun q => q.read rest := by
  have hfilter : ((key, value) :: rest).filter (fun e => e.1 ∉ fieldKeys) =
      rest.filter fun e => e.1 ∉ fieldKeys := by
    simp [hkey]
  unfold Draft.read
  rw [hfilter]
  simp only [fieldKeys, List.mem_cons, List.not_mem_nil, or_false] at hkey
  rcases hkey with rfl | rfl | rfl | rfl | rfl
  · rw [Draft.add_id]
    simp only [Keyed.get?, String.reduceEq, if_true, if_false, field, bind_assoc, pure_bind,
      hrest "class" (by decide), hrest "deriver" (by decide), hrest "id" (by decide)]
  · rw [Draft.add_provider]
    simp only [Keyed.get?, String.reduceEq, if_true, if_false, field, bind_assoc, pure_bind,
      hrest "class" (by decide), hrest "deriver" (by decide), hrest "id" (by decide),
      hrest "provider" (by decide)]
  · simp only [Draft.add, Keyed.get?, String.reduceEq, if_true, if_false, field, bind_assoc, pure_bind,
      hrest "class" (by decide)]
  · simp only [Draft.add, Keyed.get?, String.reduceEq, if_true, if_false, field, bind_assoc, pure_bind,
      hrest "class" (by decide), hrest "deriver" (by decide)]
  · simp only [Draft.add, Keyed.get?, String.reduceEq, if_true, if_false, field, bind_assoc, pure_bind,
      hrest "class" (by decide), hrest "deriver" (by decide), hrest "id" (by decide),
      hrest "provider" (by decide), hrest "source" (by decide)]

theorem Draft.read_cons_other {key : String} (hkey : key ∉ fieldKeys) (value : Value)
    (rest : List (String × Value)) (p : Draft) :
    p.read ((key, value) :: rest) = p.add key value >>= fun q => q.read rest := by
  have hfilter : ((key, value) :: rest).filter (fun e => e.1 ∉ fieldKeys) =
      (key, value) :: rest.filter fun e => e.1 ∉ fieldKeys := by
    simp [hkey]
  have hget : ∀ k ∈ fieldKeys, Keyed.get? k ((key, value) :: rest) = Keyed.get? k rest :=
    fun k hk => if_neg fun heq : key = k => hkey (heq ▸ hk)
  unfold Draft.read
  rw [add_other hkey, pure_bind, hfilter, hget "class" (by decide), hget "deriver" (by decide),
    hget "id" (by decide), hget "provider" (by decide), hget "source" (by decide)]
  simp

theorem foldlM_add_eq_read {entries : List (String × Value)} (h : Ordered entries) (p : Draft) :
    entries.foldlM (fun p e => p.add e.1 e.2) p = p.read entries := by
  induction entries generalizing p with
  | nil => simp [Draft.read, field, Keyed.get?]
  | cons e rest ih =>
    obtain ⟨key, value⟩ := e
    simp only [List.foldlM_cons, ih (List.pairwise_cons.1 h).2]
    by_cases hkey : key ∈ fieldKeys
    · exact (Draft.read_cons_field hkey value (fun k => Keyed.get?_tail_eq_none h) p).symm
    · exact (Draft.read_cons_other hkey value rest p).symm

def withoutFields (m : KeyedMap Value) : KeyedMap Value := m.filter fun key _ => key ∉ fieldKeys

theorem get?_withoutFields (m : KeyedMap Value) (key : String) :
    (withoutFields m).get? key = if key ∈ fieldKeys then none else m.get? key := by
  unfold withoutFields
  rw [KeyedMap.get?_filter]
  by_cases h : key ∈ fieldKeys <;> cases m.get? key <;> simp [h]

theorem ofFlat_ofMap (m : KeyedMap Value) :
    ofFlat (.ofMap m) = (do
      let className ← field (optionalTextOf "a string") none (m.get? "class")
      let deriver ← field (optionalTextOf "a string") none (m.get? "deriver")
      let id ← field requiredText none (m.get? "id")
      let provider ← field requiredText none (m.get? "provider")
      let source ← field (optionalTextOf "path string") none (m.get? "source")
      match id with
      | none => throw (.missingField "id")
      | some id =>
        pure { id, provider := provider.getD "", className, deriver, source := source.map Path.ofString,
               metadata := withoutFields m }) := by
  have hmetadata : KeyedMap.ofList (m.entries.filter fun e => e.1 ∉ fieldKeys) = withoutFields m := by
    unfold KeyedMap.ofList withoutFields KeyedMap.filter
    congr 1
    exact Keyed.ofList_eq_self (Keyed.ordered_filter m.ordered)
  simp only [Value.ofMap, ofFlat, foldlM_add_eq_read m.ordered, Draft.read, bind_assoc, pure_bind,
    List.nil_append, hmetadata]
  rfl

theorem get?_metadata_of_ofFlat {m : KeyedMap Value} {d : Definition}
    (h : ofFlat (.ofMap m) = .ok d) {key : String} (hkey : key ∈ fieldKeys) :
    d.metadata.get? key = none := by
  have hmetadata : d.metadata = withoutFields m := by
    rw [ofFlat_ofMap] at h
    obtain ⟨className, -, h⟩ := Except.bind_eq_ok_iff.1 h
    obtain ⟨deriver, -, h⟩ := Except.bind_eq_ok_iff.1 h
    obtain ⟨id, -, h⟩ := Except.bind_eq_ok_iff.1 h
    obtain ⟨provider, -, h⟩ := Except.bind_eq_ok_iff.1 h
    obtain ⟨source, -, h⟩ := Except.bind_eq_ok_iff.1 h
    cases id with
    | none => cases h
    | some id =>
      cases h
      rfl
  rw [hmetadata, get?_withoutFields, if_pos hkey]

theorem field_optionalText (expected : String) (t : Option String) :
    field (optionalTextOf expected) none (t.map .str) = pure t := by
  cases t <;> rfl

theorem get?_ownFields (d : Definition) (source : Option String) :
    (d.ownFields source).get? "id" = some (.str d.id) ∧
      (d.ownFields source).get? "provider" = some (.str d.provider) ∧
      (d.ownFields source).get? "class" = d.className.map .str ∧
      (d.ownFields source).get? "deriver" = d.deriver.map .str ∧
      (d.ownFields source).get? "source" = source.map .str := by
  unfold ownFields
  cases d.className <;> cases d.deriver <;> cases source <;> simp

/-- When only metadata under the name of the id is in the way, it is read as the id. -/
theorem ofFlat_overlay_eq {d : Definition} {text : Option String} (htext : d.HasSourceText text)
    (h : ∀ key ∈ fieldKeys, key ≠ "id" → d.metadata.get? key = none) :
    ofFlat (.ofMap (d.overlay text)) =
      (textOf "a string" ((d.metadata.get? "id").getD (.str d.id))).map fun id =>
        { d with id, metadata := d.metadata.erase "id" } := by
  obtain ⟨hid, hprovider, hclass, hderiver, hsource⟩ := get?_ownFields d text
  have hfield : ∀ key ∈ fieldKeys, key ≠ "id" →
      (d.overlay text).get? key = (d.ownFields text).get? key := by
    intro key hkey hne
    rw [get?_overlay, h key hkey hne, Option.none_or]
  have hshown : (d.overlay text).get? "id" = some ((d.metadata.get? "id").getD (.str d.id)) := by
    rw [get?_overlay, hid]
    cases d.metadata.get? "id" <;> rfl
  have hmetadata : withoutFields (d.overlay text) = d.metadata.erase "id" := by
    refine KeyedMap.ext_get? fun key => ?_
    rw [get?_withoutFields, KeyedMap.get?_erase, get?_overlay]
    by_cases hkey : key ∈ fieldKeys
    · by_cases hid : key = "id"
      · subst hid
        rw [if_pos hkey, if_pos rfl]
      · simp [hkey, h key hkey hid]
    · have hne : "id" ≠ key := fun heq => hkey (heq ▸ by decide)
      simp [hkey, hne, get?_ownFields_of_not_mem text hkey]
  have hpath : text.map Path.ofString = d.source := htext.symm
  rw [ofFlat_ofMap, hshown, hmetadata, hfield "class" (by decide) (by decide), hclass,
    hfield "deriver" (by decide) (by decide), hderiver, hfield "provider" (by decide) (by decide),
    hprovider, hfield "source" (by decide) (by decide), hsource]
  simp only [field_optionalText, pure_bind, hpath]
  generalize (d.metadata.get? "id").getD (.str d.id) = shown
  cases shown <;> rfl

theorem ofFlat_overlay_of_none {d : Definition} {text : Option String} (htext : d.HasSourceText text)
    (h : ∀ key ∈ fieldKeys, d.metadata.get? key = none) :
    ofFlat (.ofMap (d.overlay text)) = .ok d := by
  have hnone : d.metadata.get? "id" = none := h "id" (by decide)
  have herased : d.metadata.erase "id" = d.metadata := by
    refine KeyedMap.ext_get? fun key => ?_
    rw [KeyedMap.get?_erase]
    split
    · next heq => rw [← heq, hnone]
    · rfl
  rw [ofFlat_overlay_eq htext fun key hkey _ => h key hkey, hnone, herased]
  rfl

/-- The definition can be written in flat form, and that is read back as it. -/
def ReadsBack (d : Definition) : Prop := ∃ flat, d.toFlat = .ok flat ∧ ofFlat flat = .ok d

theorem readsBack_of_none {d : Definition} {text : Option String} (htext : d.HasSourceText text)
    (h : ∀ key ∈ fieldKeys, d.metadata.get? key = none) : d.ReadsBack :=
  ⟨_, toFlat_of_hasSourceText htext, ofFlat_overlay_of_none htext h⟩

theorem ReadsBack.get?_metadata {d : Definition} (h : d.ReadsBack) {key : String}
    (hkey : key ∈ fieldKeys) : d.metadata.get? key = none := by
  obtain ⟨flat, hflat, hback⟩ := h
  obtain ⟨text, -, rfl⟩ := hasSourceText_of_toFlat hflat
  exact get?_metadata_of_ofFlat hback hkey

theorem exists_hasSourceText_iff {d : Definition} :
    (∃ text, d.HasSourceText text) ↔
      ∀ source, d.source = some source → source.raw.InUtf8 := by
  unfold HasSourceText
  cases d.source with
  | none => exact iff_of_true ⟨none, rfl⟩ fun _ h => nomatch h
  | some source =>
    constructor
    · rintro ⟨_ | text, htext⟩ _ ⟨⟩
      · cases htext
      · exact ⟨text, congrArg Path.raw (Option.some.inj htext)⟩
    · intro h
      obtain ⟨text, htext⟩ := h source rfl
      exact ⟨some text, congrArg (some <| Path.mk ·) htext⟩

theorem exists_toFlat_iff {d : Definition} :
    (∃ flat, d.toFlat = .ok flat) ↔ ∀ source, d.source = some source → source.raw.InUtf8 := by
  rw [← exists_hasSourceText_iff]
  constructor
  · rintro ⟨flat, hflat⟩
    obtain ⟨text, htext, -⟩ := hasSourceText_of_toFlat hflat
    exact ⟨text, htext⟩
  · rintro ⟨text, htext⟩
    exact ⟨_, toFlat_of_hasSourceText htext⟩

/-- What is written in flat form is read back as it was exactly if the source, where there is one, is
in UTF-8 and no metadata stands under the name of a field, whatever is there. It cannot be written
exactly if its source is not. -/
theorem readsBack_iff_no_field_in_metadata (d : Definition) :
    (d.ReadsBack ↔
      (∀ source, d.source = some source → source.raw.InUtf8) ∧
        ∀ key ∈ ["id", "provider", "class", "deriver", "source"], d.metadata.get? key = none) ∧
    (d.toFlat = .error .pathNotUtf8 ↔ ∃ source, d.source = some source ∧ ¬source.raw.InUtf8) := by
  refine ⟨⟨fun h => ⟨?_, fun _ hkey => h.get?_metadata hkey⟩, ?_⟩, ?_⟩
  · obtain ⟨flat, hflat, -⟩ := h
    exact exists_toFlat_iff.1 ⟨flat, hflat⟩
  · rintro ⟨hsource, hnone⟩
    obtain ⟨text, htext⟩ := exists_hasSourceText_iff.2 hsource
    exact readsBack_of_none htext hnone
  · have hrefused : d.toFlat = .error .pathNotUtf8 ↔ ¬∃ flat, d.toFlat = .ok flat := by
      cases d.toFlat with
      | ok flat => simp
      | error fault =>
        cases fault
        simp
    rw [hrefused, exists_toFlat_iff]
    simp only [not_forall, exists_prop]

/-- Without any metadata, a definition whose source is no UTF-8 does not come back. -/
theorem not_readsBack_of_broken_source :
    let d : Definition := { id := "block", source := some ⟨⟨[0xFF]⟩⟩ }
    (∀ key ∈ ["id", "provider", "class", "deriver", "source"], d.metadata.get? key = none) ∧
      ¬d.ReadsBack := by
  refine ⟨fun key _ => rfl, ?_⟩
  rintro ⟨flat, hflat, -⟩
  cases hflat

end Definition

/-- What a document holds under a key; of several entries under it the last one counts. -/
def Value.field? (document : Value) (key : String) : Option Value :=
  match document with
  | .obj fields => (KeyedMap.ofList fields).get? key
  | _ => none

namespace Definition

variable {document : Value} {idKey provider : String} {source : Path} {d : Definition}

theorem get?_metadata_of_field (h : ofDocument document idKey provider source = .ok d) {key : String}
    (hkey : key ∈ fieldKeys) (hne : key ≠ "id") : d.metadata.get? key = none := by
  apply get?_metadata_of_ofDocument h
  simp only [fieldKeys, List.mem_cons, List.not_mem_nil, or_false, hne, false_or] at hkey
  rcases hkey with rfl | rfl | rfl | rfl <;> simp [reservedKeys]

theorem get?_metadata_id (h : ofDocument document idKey provider source = .ok d) :
    d.metadata.get? "id" = if idKey = "id" then none else document.field? "id" := by
  obtain ⟨fields, rfl, -, -, -, -, -, hmetadata⟩ := ofDocument_eq_ok_iff.1 h
  rw [hmetadata, get?_remaining]
  simp [reservedKeys, Value.field?, eq_comm]

/-- A definition from a document is written in flat form and read back as it was exactly if its source
is in UTF-8, and its id stands under `id` or the document holds nothing there. What the document holds
under `id` beside its id is otherwise read back as the id, and refused if it is no text. -/
theorem readBack_of_document_iff (document : Value) (idKey provider : String) (source : Path)
    (d : Definition) (h : ofDocument document idKey provider source = .ok d) :
    (d.ReadsBack ↔
      source.raw.InUtf8 ∧ (idKey = "id" ∨ document.field? "id" = none)) ∧
    ((∃ flat, d.toFlat = .ok flat) ↔ source.raw.InUtf8) ∧
      ∀ flat shown, d.toFlat = .ok flat → idKey ≠ "id" → document.field? "id" = some shown →
        ofFlat flat = (textOf "a string" shown).map fun id =>
          { d with id, metadata := d.metadata.erase "id" } := by
  have hid := get?_metadata_id h
  have hothers : ∀ key ∈ fieldKeys, key ≠ "id" → d.metadata.get? key = none := fun key =>
    get?_metadata_of_field h
  obtain ⟨-, -, -, -, -, -, hsource, -⟩ := ofDocument_eq_ok_iff.1 h
  have hwritten : (∃ flat, d.toFlat = .ok flat) ↔ source.raw.InUtf8 := by
    rw [exists_toFlat_iff, hsource]
    simp
  refine ⟨⟨fun hback => ⟨?_, ?_⟩, ?_⟩, hwritten, ?_⟩
  · obtain ⟨flat, hflat, -⟩ := hback
    exact hwritten.1 ⟨flat, hflat⟩
  · have hnone : d.metadata.get? "id" = none := hback.get?_metadata (by decide)
    rw [hid] at hnone
    by_cases hkey : idKey = "id"
    · exact .inl hkey
    · exact .inr ((if_neg hkey).symm.trans hnone)
  · rintro ⟨hutf8, hfree⟩
    obtain ⟨text, htext⟩ := exists_hasSourceText_iff.2 fun other hother =>
      Option.some.inj (hsource.symm.trans hother) ▸ hutf8
    refine readsBack_of_none htext fun key hkey => ?_
    by_cases heq : key = "id"
    · rw [heq, hid]
      rcases hfree with hfree | hfree <;> simp [hfree]
    · exact hothers key hkey heq
  · intro flat shown hflat hkey hshown
    obtain ⟨text, htext, rfl⟩ := hasSourceText_of_toFlat hflat
    rw [ofFlat_overlay_eq htext hothers, hid, if_neg hkey, hshown]
    rfl

def teaserDocument : Value := .obj [("id", .str "node-7"), ("machine_name", .str "teaser")]

def teaser : Definition where
  id := "teaser"
  provider := "node"
  source := some ⟨"t.yml"⟩
  metadata := KeyedMap.empty.insert "id" (.str "node-7")

theorem ofDocument_teaser :
    ofDocument teaserDocument "machine_name" "node" ⟨"t.yml"⟩ = .ok teaser := by
  rfl

theorem teaser_read_back_as_node :
    ofDocument teaserDocument "machine_name" "node" ⟨"t.yml"⟩ = .ok teaser ∧
      ∃ flat, teaser.toFlat = .ok flat ∧
        ofFlat flat = .ok { teaser with id := "node-7", metadata := .empty } := by
  obtain ⟨-, hwritten, hshown⟩ := readBack_of_document_iff _ _ _ _ _ ofDocument_teaser
  obtain ⟨flat, hflat⟩ := hwritten.2 ⟨"t.yml", rfl⟩
  exact ⟨ofDocument_teaser, flat, hflat, hshown flat (.str "node-7") hflat (by decide) rfl⟩

/-- Not every definition from a document is read back from its flat form. -/
theorem not_every_document_read_back :
    ¬∀ (document : Value) (idKey provider text : String) (d : Definition),
      idKey ≠ "" → ofDocument document idKey provider (.ofString text) = .ok d → d.ReadsBack := by
  intro h
  have hback := h _ _ _ "t.yml" _ (by decide) ofDocument_teaser
  have hnone : teaser.metadata.get? "id" = none := hback.get?_metadata (by decide)
  cases hnone

end Definition

end PluginHost
