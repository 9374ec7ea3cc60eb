import PluginHost.Proofs.Settings.Document
import PluginHost.Proofs.Settings.Hierarchy

/-!
Settings from a text are those that the text holds on its own: the layer of the defaults gives the
same values as the fields that a document leaves out.
-/
namespace PluginHost.Settings

open Decoded Settings.Tree
open Keyed (Ordered)

theorem defaultLayer_eq :
    defaultLayer =
      [("cache", .table none
          [("enabled", .scalar none (.bool true)), ("key_suffix", .scalar none (.str "plugins"))]),
       ("discovery", .table none
          [("directories", .list none []), ("exclude_pattern", .scalar none .null),
           ("file_suffix", .scalar none .null), ("format", .scalar none (.str "yaml")),
           ("id_key", .scalar none (.str "id"))]),
       ("logging", .table none [("level", .scalar none (.str "info"))]),
       ("manager", .table none
          [("fallback_plugin", .scalar none .null), ("fallback_provider", .scalar none .null),
           ("fallback_strategy", .scalar none (.str "none")),
           ("installed_providers", .scalar none .null)])] := by
  rfl

theorem decode_defaultLayer : decode .layered (.table none defaultLayer) = .ok {} := by
  rfl

theorem Section.table_default :
    ∀ c ∈ all, ∃ entries, Keyed.get? c.name defaultLayer = some (.table none entries) ∧
      Ordered entries ∧ ∀ e ∈ entries, ¬e.2.IsTable := by
  refine forall_mem_all.2 ⟨?_, ?_, ?_, ?_⟩ <;>
    exact ⟨_, rfl, by unfold Ordered; decide, by decide⟩

theorem sectioned_defaultLayer : Sectioned defaultLayer where
  ordered := by
    rw [defaultLayer_eq]
    unfold Ordered
    decide
  table c hc := by
    obtain ⟨entries, hget, -, -⟩ := Section.table_default c hc
    intro t ht
    rw [hget] at ht
    exact Option.some.inj ht ▸ trivial
  keys c hc := by
    obtain ⟨entries, hget, hordered, -⟩ := Section.table_default c hc
    rwa [sectionOf_of_table hget]

theorem shows_defaultLayer :
    (∀ name ∈ defaultLayer.map Prod.fst, ∃ c ∈ Section.all, c.name = name) ∧
      ∀ c ∈ Section.all,
        (∀ key ∈ (sectionOf defaultLayer c.name).map Prod.fst, ∃ p ∈ c.slots .layered, p.name = key) ∧
          ∀ p ∈ c.slots .layered, p.Shows c.start (given? defaultLayer c.name p.name) (c.get {}) :=
  sectioned_defaultLayer.decode_eq_ok_iff.1 decode_defaultLayer

theorem Section.not_isTable_default {c : Section} (hc : c ∈ all) {key : String} {t : Tree}
    (h : given? defaultLayer c.name key = some t) : ¬t.IsTable := by
  obtain ⟨entries, hget, -, hleaves⟩ := table_default c hc
  unfold given? at h
  rw [sectionOf_of_table hget] at h
  exact hleaves _ (Keyed.mem_of_get? h)

/-- A field that a layer leaves out has the default, which is also what its section starts with. -/
theorem shows_laid_default_iff {c : Section} (hc : c ∈ Section.all) {p : Slot c.Content}
    (hp : p ∈ c.slots .layered) {t : Option Tree} {r : c.Content} :
    p.Shows c.start (laid? (given? defaultLayer c.name p.name) t) r ↔ p.Shows c.start t r := by
  have hdefault := (shows_defaultLayer.2 c hc).2 p hp
  rw [Section.get_default c hc] at hdefault
  cases hlower : given? defaultLayer c.name p.name with
  | none => rw [none_laid?]
  | some lower =>
    rw [laid?_of_not_table (Section.not_isTable_default hc hlower)]
    cases t with
    | some t => exact Iff.rfl
    | none =>
      rw [hlower] at hdefault
      have hread : p.read lower = .ok (p.get c.start) := hdefault
      simp [Slot.Shows, hread, eq_comm]

variable {layer : Layer} {s : Settings}

theorem Sectioned.decode_layEntries_defaultLayer_eq_ok_iff (h : Sectioned layer) :
    decode .layered (.table none (Tree.layEntries defaultLayer layer)) = .ok s ↔
      decode .layered (.table none layer) = .ok s := by
  rw [(sectioned_defaultLayer.layEntries h).decode_eq_ok_iff, h.decode_eq_ok_iff]
  refine and_congr ?_ (forall₂_congr fun c hc => and_congr ?_ (forall₂_congr fun p hp => ?_))
  · simp only [mem_keys_layEntries_iff h.ordered]
    exact ⟨fun hnames name hname => hnames name (.inr hname), fun hnames name hname =>
      hname.elim (shows_defaultLayer.1 name) (hnames name)⟩
  · rw [sectioned_defaultLayer.sectionOf_layEntries h hc]
    simp only [mem_keys_layEntries_iff (h.keys c hc)]
    exact ⟨fun hkeys key hkey => hkeys key (.inr hkey), fun hkeys key hkey =>
      hkey.elim ((shows_defaultLayer.2 c hc).1 key) (hkeys key)⟩
  · rw [sectioned_defaultLayer.given?_layEntries h hc]
    exact shows_laid_default_iff hc hp

theorem sectioned_writtenEntries {o : Origin} {entries : List (String × Toml.Item)}
    (h : ∀ c ∈ Section.all, TableAt (writtenEntries o entries) c.name) :
    Sectioned (writtenEntries o entries) where
  ordered := ordered_writtenEntries entries
  table := h
  keys c hc := by
    rcases (h c hc).cases with hnone | ⟨o', es, htable⟩
    · rw [sectionOf_of_none hnone]
      exact Keyed.ordered_nil
    · rw [sectionOf_of_table htable]
      rw [get?_writtenEntries] at htable
      obtain ⟨item, -, hitem⟩ := Option.map_eq_some_iff.1 htable
      exact ordered_of_written hitem

theorem ofText_eq_ok_iff {toml : String} :
    ofText toml = .ok s ↔
      ∃ layer, layerOf .text toml = .ok layer ∧
        decode .layered (.table none (Tree.layEntries defaultLayer layer)) = .ok s := by
  unfold ofText
  rw [ofLayers_eq_ok_iff]
  constructor
  · rintro ⟨ls, hls, hdecode⟩
    obtain ⟨layer, rest, rfl, hlayer, hrest⟩ := List.map_eq_cons_iff.1 hls.symm
    rw [List.map_eq_nil_iff.1 hrest] at hdecode
    exact ⟨layer, hlayer.symm, hdecode⟩
  · rintro ⟨layer, hlayer, hdecode⟩
    exact ⟨[layer], by rw [hlayer]; rfl, hdecode⟩

theorem ofDocument_eq_ok_iff {toml : String} :
    ofDocument toml = .ok s ↔
      ∃ entries, Toml.read toml.toList = some entries ∧
        decode .document (.table none (writtenEntries .text entries)) = .ok s := by
  unfold ofDocument
  cases Toml.read toml.toList with
  | none => exact ⟨nofun, nofun⟩
  | some entries => simp [Except.mapError_eq_ok_iff]

/-- A text gives settings over the layer of the defaults exactly if it gives them on its own, unless a
table of it has the key for contents. -/
theorem ofText_iff_ofDocument (toml : String)
    (h : ∀ entries, Toml.read toml.toList = some entries →
      Toml.Item.LackEntries contentKey entries ∧ Conventional (writtenEntries .text entries)) :
    (∀ s, ofText toml = .ok s ↔ ofDocument toml = .ok s) ∧
      ((∃ e, ofText toml = .error e) ↔ ∃ e, ofDocument toml = .error e) := by
  have hok : ∀ s, ofText toml = .ok s ↔ ofDocument toml = .ok s := fun s => by
    rw [ofText_eq_ok_iff, ofDocument_eq_ok_iff]
    constructor
    · rintro ⟨layer, hlayer, hdecode⟩
      obtain ⟨entries, hread, hentries⟩ := layerOf_eq_ok_iff.1 hlayer
      obtain ⟨hlacks, hconventional⟩ := h entries hread
      obtain rfl := ofEntries?_eq_written entries hlacks hentries
      have hsectioned := sectioned_writtenEntries hconventional.sections
      refine ⟨entries, hread, (hconventional.decode_eq_ok_iff hsectioned).1 ?_⟩
      exact hsectioned.decode_layEntries_defaultLayer_eq_ok_iff.1 hdecode
    · rintro ⟨entries, hread, hdecode⟩
      obtain ⟨hlacks, hconventional⟩ := h entries hread
      have hdistinct := Toml.distinct_of_read hread
      obtain ⟨layer, hentries⟩ :=
        Option.isSome_iff_exists.1 (hconventional.isSome_of_decode hdistinct hdecode)
      obtain rfl := ofEntries?_eq_written entries hlacks hentries
      have hsectioned := sectioned_writtenEntries hconventional.sections
      refine ⟨_, layerOf_eq_ok_iff.2 ⟨entries, hread, hentries⟩, ?_⟩
      exact hsectioned.decode_layEntries_defaultLayer_eq_ok_iff.2
        ((hconventional.decode_eq_ok_iff hsectioned).2 hdecode)
  refine ⟨hok, ?_⟩
  simp only [Except.exists_error_iff, ne_eq, hok]

theorem core_read_alone :
    let toml := "[[discovery.directories]]\nprovider = 'core'\n"
    (∀ entries, Toml.read toml.toList = some entries →
      Toml.Item.LackEntries contentKey entries ∧ Conventional (writtenEntries .text entries)) ∧
    ofText toml = .ok { discovery := { directories := [{ provider := "core" }] } } ∧
    ofDocument toml = .ok { discovery := { directories := [{ provider := "core" }] } } := by
  intro toml
  have hread : Toml.read toml.toList =
      some [("discovery", .table [("directories", .arr [.table [("provider", .str "core")]])])] := by
    decide +kernel
  have hpremise : ∀ entries, Toml.read toml.toList = some entries →
      Toml.Item.LackEntries contentKey entries ∧ Conventional (writtenEntries .text entries) := by
    rw [hread]
    rintro _ ⟨⟩
    constructor
    · simp [Toml.Item.LackEntries, Toml.Item.Lacks, Toml.Item.LackItems, contentKey]
    · exact
        { sections := fun c _ => tableAt_of_forall (by decide) c.name
          directories := by
            rintro o ts ⟨⟩
            decide
          format := nofun
          strategy := nofun }
  have hdocument :
      ofDocument toml = .ok { discovery := { directories := [{ provider := "core" }] } } :=
    ofDocument_eq_ok_iff.2 ⟨_, hread, rfl⟩
  exact ⟨hpremise, ((ofText_iff_ofDocument toml hpremise).1 _).2 hdocument, hdocument⟩

/-- What stands under the key for contents counts in a layer, and is no setting of the document. -/
theorem content_counts_in_layers_only :
    let toml := "[cache.___figment_value_value]\nenabled = false\n"
    let entries : List (String × Toml.Item) :=
      [("cache", .table [("___figment_value_value", .table [("enabled", .bool false)])])]
    Toml.read toml.toList = some entries ∧ Conventional (writtenEntries .text entries) ∧
      ofText toml = .ok { cache := { enabled := false } } ∧ ∃ e, ofDocument toml = .error e := by
  intro toml entries
  have hread : Toml.read toml.toList = some entries := by decide +kernel
  refine ⟨hread, ?_, ofText_eq_ok_iff.2 ⟨_, layerOf_eq_ok_iff.2 ⟨entries, hread, rfl⟩, rfl⟩, ?_⟩
  · exact
      { sections := fun c _ => tableAt_of_forall (by decide) c.name
        directories := nofun
        format := nofun
        strategy := nofun }
  · unfold ofDocument
    rw [hread]
    exact ⟨_, rfl⟩

end PluginHost.Settings
