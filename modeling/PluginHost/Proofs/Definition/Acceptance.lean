import PluginHost.Proofs.Definition.Flat

/-!
Which documents give definitions, and that a definition keeps all that its document says. The id key
may be the name of any other field, whose content is then the id and nothing else.
-/
namespace PluginHost.Definition

/-- What may stand where a text is asked for but need not be given, and the text that this gives. -/
inductive Gives : Option Value → Option String → Prop
  | absent : Gives none none
  | null : Gives (some .null) none
  | text (s : String) : Gives (some (.str s)) (some s)

theorem readOptionalText_eq_ok_iff {key : String} {value : Option Value} {given : Option String} :
    readOptionalText key value = .ok given ↔ Gives value given := by
  constructor
  · intro h
    unfold readOptionalText at h
    split at h
    · cases h
      exact .absent
    · cases h
      exact .null
    · cases h
      exact .text _
    · cases h
  · rintro (_ | _ | s) <;> rfl

def besideId? (document : Value) (idKey key : String) : Option Value :=
  if key = idKey then none else document.field? key

theorem get?_erase_id (fields : List (String × Value)) (idKey key : String) :
    ((KeyedMap.ofList fields).erase idKey).get? key = besideId? (.obj fields) idKey key := by
  rw [KeyedMap.get?_erase]
  simp only [besideId?, Value.field?, eq_comm]

theorem get?_deriver_after_class (fields : List (String × Value)) (idKey : String) :
    (((KeyedMap.ofList fields).erase idKey).erase "class").get? "deriver" =
      besideId? (.obj fields) idKey "deriver" := by
  rw [KeyedMap.get?_erase, if_neg (by decide), get?_erase_id]

/-- A document that gives a definition: an object with an id that is not blank, whose class and deriver
are texts where they are given. -/
structure Acceptable (document : Value) (idKey : String) : Prop where
  isObject : ∃ fields, document = .obj fields
  id : ∃ id, document.field? idKey = some (.str id) ∧ ∃ c ∈ id.toList, Text.isSpace c = false
  texts : ∀ key ∈ ["class", "deriver"], ∃ given, Gives (besideId? document idKey key) given

/-- What a definition has from the document it was read from, and from where that was found. -/
structure KeptFrom (document : Value) (idKey provider : String) (source : Path) (d : Definition) :
    Prop where
  id : document.field? idKey = some (.str d.id)
  provider : d.provider = provider
  source : d.source = some source
  className : Gives (besideId? document idKey "class") d.className
  deriver : Gives (besideId? document idKey "deriver") d.deriver
  metadata : ∀ key, d.metadata.get? key =
    if key ∈ [idKey, "class", "deriver", "provider", "source"] then none else document.field? key

theorem isBlank_eq_false_iff {id : String} :
    Text.isBlank id = false ↔ ∃ c ∈ id.toList, Text.isSpace c = false := by
  simp [Text.isBlank]

variable {document : Value} {idKey provider : String} {source : Path} {d : Definition}

/-- Each part is read as if it were the only one that is taken out of the document. -/
theorem ofDocument_obj_eq_ok_iff {fields : List (String × Value)} :
    ofDocument (.obj fields) idKey provider source = .ok d ↔
      Text.isBlank d.id = false ∧ KeptFrom (.obj fields) idKey provider source d := by
  rw [ofDocument_eq_ok_iff]
  simp only [Value.obj.injEq, exists_eq_left', readId_eq_ok_iff, readOptionalText_eq_ok_iff,
    get?_deriver_after_class, get?_erase_id]
  constructor
  · rintro ⟨⟨hid, hblank⟩, hclass, hderiver, hprovider, hsource, hmetadata⟩
    refine ⟨hblank, hid, hprovider, hsource, hclass, hderiver, fun key => ?_⟩
    rw [hmetadata, get?_remaining]
    rfl
  · rintro ⟨hblank, hkept⟩
    refine ⟨⟨hkept.id, hblank⟩, hkept.className, hkept.deriver, hkept.provider, hkept.source,
      KeyedMap.ext_get? fun key => ?_⟩
    rw [hkept.metadata, get?_remaining]
    rfl

/-- A document gives a definition exactly if it is acceptable, and the definition keeps what it says. -/
theorem ofDocument_accepts_and_keeps (document : Value) (idKey provider : String) (source : Path) :
    ((∃ d, ofDocument document idKey provider source = .ok d) ↔ Acceptable document idKey) ∧
      ∀ d, ofDocument document idKey provider source = .ok d →
        KeptFrom document idKey provider source d := by
  have hobject : ∀ d, ofDocument document idKey provider source = .ok d →
      ∃ fields, document = .obj fields := fun d h => by
    obtain ⟨fields, hfields, -⟩ := ofDocument_eq_ok_iff.1 h
    exact ⟨fields, hfields⟩
  refine ⟨⟨?_, ?_⟩, fun d h => ?_⟩
  · rintro ⟨d, h⟩
    obtain ⟨fields, rfl⟩ := hobject d h
    obtain ⟨hblank, hkept⟩ := ofDocument_obj_eq_ok_iff.1 h
    refine ⟨⟨fields, rfl⟩, ⟨d.id, hkept.id, isBlank_eq_false_iff.1 hblank⟩, ?_⟩
    simp only [List.forall_mem_cons, List.not_mem_nil, false_imp_iff, implies_true, and_true]
    exact ⟨⟨_, hkept.className⟩, ⟨_, hkept.deriver⟩⟩
  · rintro ⟨⟨fields, rfl⟩, ⟨id, hid, hchar⟩, htexts⟩
    obtain ⟨className, hclass⟩ := htexts "class" (.head _)
    obtain ⟨deriver, hderiver⟩ := htexts "deriver" (.tail _ (.head _))
    have hkept : KeptFrom (.obj fields) idKey provider source
        ⟨id, provider, className, deriver, some source, remaining idKey (.ofList fields)⟩ :=
      ⟨hid, rfl, rfl, hclass, hderiver, get?_remaining idKey (.ofList fields)⟩
    exact ⟨_, ofDocument_obj_eq_ok_iff.2 ⟨isBlank_eq_false_iff.2 hchar, hkept⟩⟩
  · obtain ⟨fields, rfl⟩ := hobject d h
    exact (ofDocument_obj_eq_ok_iff.1 h).2

/-- The class of this document is its id, which therefore has no class. -/
theorem class_taken_for_id :
    let document : Value :=
      .obj [("class", .str "Teaser"), ("deriver", .null), ("provider", .str "other"),
        ("weight", .int 3)]
    Acceptable document "class" ∧
      ∃ d, ofDocument document "class" "node" ⟨"t.yml"⟩ = .ok d ∧
        KeptFrom document "class" "node" ⟨"t.yml"⟩ d ∧ d.id = "Teaser" ∧ d.className = none := by
  intro document
  have hmain := ofDocument_accepts_and_keeps document "class" "node" ⟨"t.yml"⟩
  have hread : ofDocument document "class" "node" ⟨"t.yml"⟩ = .ok
      { id := "Teaser", provider := "node", source := some ⟨"t.yml"⟩,
        metadata := KeyedMap.empty.insert "weight" (.int 3) } := rfl
  exact ⟨hmain.1.1 ⟨_, hread⟩, _, hread, hmain.2 _ hread, rfl, rfl⟩

end PluginHost.Definition
