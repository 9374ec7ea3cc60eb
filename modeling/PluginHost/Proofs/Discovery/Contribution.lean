import PluginHost.Discovery.Directory

/-!
What a scanned file contributes to the definitions of a directory discovery. The two relations say
it in terms of the file's bytes, text and document; `load` decides them.
-/
namespace PluginHost.DirectoryDiscovery

/-- A document that holds nothing: none at all, or a mapping without fields. -/
def HoldsNothing (document : Option Value) : Prop := document = none ∨ document = some (.obj [])

inductive Holds (d : DirectoryDiscovery) (files : FileTree) (f : ScannedFile) : CacheEntry → Prop
  | nothing {bytes : ByteArray} {text : String} {document : Option Value}
      (readable : files.read f.path = .ok bytes) (utf8 : String.fromUTF8? bytes = some text)
      (parses : d.parser.parse f.path text = .ok document) (holdsNothing : HoldsNothing document) :
      Holds d files f .empty
  | definition {bytes : ByteArray} {text : String} {document : Value} {definition : Definition}
      (readable : files.read f.path = .ok bytes) (utf8 : String.fromUTF8? bytes = some text)
      (parses : d.parser.parse f.path text = .ok (some document))
      (holdsSome : ¬HoldsNothing (some document))
      (valid : Definition.ofDocument document d.idKey f.provider f.path = .ok definition) :
      Holds d files f (.definition definition)

inductive Fails (d : DirectoryDiscovery) (files : FileTree) (f : ScannedFile) : PluginError → Prop
  | unreadable {fault : ReadFault} (unreadable : files.read f.path = .error fault) :
      Fails d files f (.unreadable f.path fault)
  | notUtf8 {bytes : ByteArray} (readable : files.read f.path = .ok bytes)
      (notUtf8 : String.fromUTF8? bytes = none) :
      Fails d files f (.invalidDefinition (some f.path) .notUtf8)
  | malformed {bytes : ByteArray} {text : String} {e : PluginError}
      (readable : files.read f.path = .ok bytes) (utf8 : String.fromUTF8? bytes = some text)
      (malformed : d.parser.parse f.path text = .error e) :
      Fails d files f e
  | invalid {bytes : ByteArray} {text : String} {document : Value} {fault : DefinitionFault}
      (readable : files.read f.path = .ok bytes) (utf8 : String.fromUTF8? bytes = some text)
      (parses : d.parser.parse f.path text = .ok (some document))
      (holdsSome : ¬HoldsNothing (some document))
      (invalid : Definition.ofDocument document d.idKey f.provider f.path = .error fault) :
      Fails d files f (.invalidDefinition (some f.path) fault)

variable {d : DirectoryDiscovery} {files : FileTree} {f : ScannedFile}

theorem content_eq_ok {path : Path} {bytes : ByteArray} (h : files.read path = .ok bytes) :
    content files path = .ok bytes := by
  unfold content
  rw [h]
  rfl

theorem content_eq_error {path : Path} {fault : ReadFault} (h : files.read path = .error fault) :
    content files path = .error (.unreadable path fault) := by
  unfold content
  rw [h]
  rfl

theorem entryOf_holdsNothing {document : Option Value} (h : HoldsNothing document) :
    d.entryOf f.path f.provider document = .ok .empty := by
  rcases h with rfl | rfl <;> rfl

theorem entryOf_some {document : Value} (h : ¬HoldsNothing (some document)) :
    d.entryOf f.path f.provider (some document) =
      ((Definition.ofDocument document d.idKey f.provider f.path).map .definition).mapError
        (.invalidDefinition (some f.path)) := by
  unfold entryOf
  split
  · next heq => cases heq
  · next heq => exact absurd (Or.inr heq) h
  · next heq => cases heq; rfl

theorem entryOf_valid {document : Value} {definition : Definition}
    (h : ¬HoldsNothing (some document))
    (valid : Definition.ofDocument document d.idKey f.provider f.path = .ok definition) :
    d.entryOf f.path f.provider (some document) = .ok (.definition definition) := by
  rw [entryOf_some h, valid]
  rfl

theorem entryOf_invalid {document : Value} {fault : DefinitionFault}
    (h : ¬HoldsNothing (some document))
    (invalid : Definition.ofDocument document d.idKey f.provider f.path = .error fault) :
    d.entryOf f.path f.provider (some document) =
      .error (.invalidDefinition (some f.path) fault) := by
  rw [entryOf_some h, invalid]
  rfl

theorem load_of_holds {entry : CacheEntry} (h : d.Holds files f entry) :
    d.load files f.path f.provider = .ok (entry, files.modified? f.path) := by
  cases h with
  | nothing readable utf8 parses holdsNothing =>
    unfold load
    simp [bind, Except.bind, pure, Except.pure, content_eq_ok readable, utf8, parses,
      entryOf_holdsNothing holdsNothing]
  | definition readable utf8 parses holdsSome valid =>
    unfold load
    simp [bind, Except.bind, pure, Except.pure, content_eq_ok readable, utf8, parses,
      entryOf_valid holdsSome valid]

theorem load_of_fails {e : PluginError} (h : d.Fails files f e) :
    d.load files f.path f.provider = .error e := by
  unfold load
  cases h with
  | unreadable unreadable =>
    simp [bind, Except.bind, content_eq_error unreadable]
  | notUtf8 readable notUtf8 =>
    simp [bind, Except.bind, content_eq_ok readable, notUtf8, throw, throwThe, MonadExceptOf.throw]
  | malformed readable utf8 malformed =>
    simp [bind, Except.bind, content_eq_ok readable, utf8, malformed]
  | invalid readable utf8 parses holdsSome invalid =>
    simp [bind, Except.bind, content_eq_ok readable, utf8, parses, entryOf_invalid holdsSome invalid]

theorem holds_or_fails (d : DirectoryDiscovery) (files : FileTree) (f : ScannedFile) :
    (∃ entry, d.Holds files f entry) ∨ ∃ e, d.Fails files f e := by
  cases readable : files.read f.path with
  | error fault => exact .inr ⟨_, .unreadable readable⟩
  | ok bytes =>
    cases utf8 : String.fromUTF8? bytes with
    | none => exact .inr ⟨_, .notUtf8 readable utf8⟩
    | some text =>
      cases parses : d.parser.parse f.path text with
      | error e => exact .inr ⟨e, .malformed readable utf8 parses⟩
      | ok document =>
        by_cases h : HoldsNothing document
        · exact .inl ⟨_, .nothing readable utf8 parses h⟩
        · cases document with
          | none => exact absurd (Or.inl rfl) h
          | some document =>
            cases valid : Definition.ofDocument document d.idKey f.provider f.path with
            | ok definition => exact .inl ⟨_, .definition readable utf8 parses h valid⟩
            | error fault => exact .inr ⟨_, .invalid readable utf8 parses h valid⟩

def readEntry (d : DirectoryDiscovery) (files : FileTree) (f : ScannedFile) :
    Except PluginError CacheEntry :=
  (d.load files f.path f.provider).map Prod.fst

theorem readEntry_of_holds {entry : CacheEntry} (h : d.Holds files f entry) :
    d.readEntry files f = .ok entry := by
  rw [readEntry, load_of_holds h]
  rfl

theorem readEntry_of_fails {e : PluginError} (h : d.Fails files f e) :
    d.readEntry files f = .error e := by
  rw [readEntry, load_of_fails h]
  rfl

theorem holds_iff_readEntry {entry : CacheEntry} :
    d.Holds files f entry ↔ d.readEntry files f = .ok entry := by
  refine ⟨readEntry_of_holds, fun h => ?_⟩
  rcases holds_or_fails d files f with ⟨held, hheld⟩ | ⟨e, he⟩
  · cases h.symm.trans (readEntry_of_holds hheld)
    exact hheld
  · cases h.symm.trans (readEntry_of_fails he)

theorem provider_source_of_ofDocument {document : Value} {idKey provider : String} {path : Path}
    {definition : Definition}
    (h : Definition.ofDocument document idKey provider path = .ok definition) :
    definition.provider = provider ∧ definition.source = some path := by
  cases document with
  | obj fields =>
    simp only [Definition.ofDocument, bind, Except.bind, pure, Except.pure] at h
    split at h
    · cases h
    · split at h
      · cases h
      · split at h
        · cases h
        · cases h
          exact ⟨rfl, rfl⟩
  | _ => cases h

theorem provider_source_of_holds {definition : Definition}
    (h : d.Holds files f (.definition definition)) :
    definition.provider = f.provider ∧ definition.source = some f.path := by
  cases h with
  | definition readable utf8 parses holdsSome valid => exact provider_source_of_ofDocument valid

/-- What a file holds depends on nothing but its path and its bytes, and for a definition also on
its provider; of the discovery only the parser and the id key matter. -/
theorem Holds.transfer {d' : DirectoryDiscovery} {files' : FileTree} {f' : ScannedFile}
    {entry : CacheEntry} (h : d.Holds files f entry) (hparser : d'.parser = d.parser)
    (hidKey : d'.idKey = d.idKey) (hpath : f'.path = f.path)
    (hcontent : files'.read f'.path = files.read f.path)
    (hfits : fits f'.provider entry = true) : d'.Holds files' f' entry := by
  cases h with
  | nothing readable utf8 parses holdsNothing =>
    refine .nothing (hcontent.trans readable) utf8 ?_ holdsNothing
    rw [hparser, hpath]
    exact parses
  | @definition bytes text document definition readable utf8 parses holdsSome valid =>
    have hprovider : f'.provider = f.provider := by
      rw [← (provider_source_of_ofDocument valid).1]
      exact (of_decide_eq_true hfits).symm
    refine .definition (hcontent.trans readable) utf8 ?_ holdsSome ?_
    · rw [hparser, hpath]
      exact parses
    · rw [hidKey, hprovider, hpath]
      exact valid

end PluginHost.DirectoryDiscovery
