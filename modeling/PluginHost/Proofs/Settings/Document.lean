import PluginHost.Proofs.Settings.Sections
import PluginHost.Proofs.Settings.Written

/-!
Settings that a document holds on its own. Whatever can be read from its tree has a layer, and the
layer is read like the document.
-/
namespace PluginHost.Settings

open Decoded Settings.Tree

def ofDocument (toml : String) : Except LoadFault Settings :=
  match Toml.read toml.toList with
  | some entries => (decode .document (.table none (writtenEntries .text entries))).mapError .misfit
  | none => throw (.unreadable [.notToml])

/-- Sections and the entries of directories are tables, and no choice is one. -/
structure Conventional (layer : Layer) : Prop where
  sections : ∀ c ∈ Section.all, TableAt layer c.name
  directories : ∀ o ts, given? layer "discovery" "directories" = some (.list o ts) →
    ∀ t ∈ ts, t.IsTable
  format : ∀ t, given? layer "discovery" "format" = some t → ¬t.IsTable
  strategy : ∀ t, given? layer "manager" "fallback_strategy" = some t → ¬t.IsTable

namespace Decoded

variable {α ρ : Type} {a : α} {t : Tree}

theorem choice_eq_ok_iff {c : Choice α} (h : ¬t.IsTable) :
    choice .layered c t = .ok a ↔ choice .document c t = .ok a := by
  cases t with
  | table => exact absurd trivial h
  | list => exact ⟨nofun, nofun⟩
  | scalar o v =>
    cases v with
    | str name => exact Iff.rfl
    | null | bool | signed | unsigned | float | char => exact ⟨nofun, nofun⟩

theorem items_congr {read read' : Tree → Decoded α} {ts : List Tree}
    (h : ∀ t ∈ ts, read t = read' t) (i : Nat) : items read i ts = items read' i ts := by
  induction ts generalizing i with
  | nil => rfl
  | cons t rest ih =>
    obtain ⟨ht, hrest⟩ := List.forall_mem_cons.1 h
    rw [items, items, ht, ih hrest]

theorem directory_eq (h : t.IsTable) : directory .layered t = directory .document t := by
  cases t with
  | table => rfl
  | scalar | list => exact h.elim

theorem directories_eq (h : ∀ o ts, t = .list o ts → ∀ item ∈ ts, item.IsTable) :
    list (directory .layered) t = list (directory .document) t := by
  cases t with
  | list o ts => exact items_congr (fun item hitem => directory_eq (h o ts rfl item hitem)) 0
  | scalar | table => rfl

end Decoded

theorem Conventional.shows_discovery_iff {layer : Layer} (h : Conventional layer)
    {r : DiscoverySettings} :
    (∀ p ∈ discoverySlots .layered, p.Shows {} (given? layer "discovery" p.name) r) ↔
      ∀ p ∈ discoverySlots .document, p.Shows {} (given? layer "discovery" p.name) r := by
  simp only [discoverySlots, List.forall_mem_cons]
  refine and_congr ?_ (and_congr Iff.rfl (and_congr Iff.rfl (and_congr Iff.rfl
    (and_congr ?_ Iff.rfl))))
  · cases hformat : given? layer "discovery" "format" with
    | none => exact Iff.rfl
    | some t => exact choice_eq_ok_iff (h.format t hformat)
  · cases hdirectories : given? layer "discovery" "directories" with
    | none => exact Iff.rfl
    | some t =>
      have heq : list (directory .layered) t = list (directory .document) t :=
        directories_eq fun o ts ht => h.directories o ts (hdirectories.trans (congrArg some ht))
      simp only [Slot.Shows, heq]

theorem Conventional.shows_manager_iff {layer : Layer} (h : Conventional layer)
    {r : ManagerSettings} :
    (∀ p ∈ managerSlots .layered, p.Shows {} (given? layer "manager" p.name) r) ↔
      ∀ p ∈ managerSlots .document, p.Shows {} (given? layer "manager" p.name) r := by
  simp only [managerSlots, List.forall_mem_cons]
  refine and_congr ?_ Iff.rfl
  cases hstrategy : given? layer "manager" "fallback_strategy" with
  | none => exact Iff.rfl
  | some t => exact choice_eq_ok_iff (h.strategy t hstrategy)

theorem Conventional.shows_iff {layer : Layer} (h : Conventional layer) :
    ∀ c ∈ Section.all, ∀ r : c.Content,
      (∀ p ∈ c.slots .layered, p.Shows c.start (given? layer c.name p.name) r) ↔
        ∀ p ∈ c.slots .document, p.Shows c.start (given? layer c.name p.name) r :=
  Section.forall_mem_all.2
    ⟨fun _ => h.shows_discovery_iff, fun _ => Iff.rfl, fun _ => h.shows_manager_iff, fun _ => Iff.rfl⟩

theorem Section.names_slots :
    ∀ c ∈ all, (c.slots .layered).map Slot.name = (c.slots .document).map Slot.name :=
  forall_mem_all.2 ⟨rfl, rfl, rfl, rfl⟩

theorem Conventional.decode_eq_ok_iff {layer : Layer} (h : Conventional layer)
    (hsectioned : Sectioned layer) {o : Option Origin} {s : Settings} :
    decode .layered (.table o layer) = .ok s ↔ decode .document (.table o layer) = .ok s := by
  rw [hsectioned.decode_eq_ok_iff, hsectioned.decode_eq_ok_iff]
  refine and_congr Iff.rfl (forall₂_congr fun c hc =>
    and_congr (forall₂_congr fun key _ => ?_) (h.shows_iff c hc _))
  rw [← List.mem_map, ← List.mem_map, Section.names_slots c hc]

/-! Whatever can be read from what an item writes, the item has a layer. -/

namespace Decoded

open Toml

variable {α ρ : Type} {o : Origin} {item : Item}

theorem isSome_of_textAs {expected s : String} (h : textAs expected (written o item) = .ok s) :
    (ofItem? o item).isSome := by
  cases item with
  | str => rfl
  | int | float | bool | moment | arr | table => cases h

theorem isSome_of_path {p : Path} (h : path (written o item) = .ok p) : (ofItem? o item).isSome := by
  obtain ⟨raw, hraw, -⟩ := Except.map_eq_ok_iff.1 h
  obtain ⟨s, hs, -⟩ := Except.bind_eq_ok_iff.1 hraw
  exact isSome_of_textAs hs

theorem isSome_of_boolean {b : Bool} (h : boolean (written o item) = .ok b) :
    (ofItem? o item).isSome := by
  cases item with
  | bool => rfl
  | str | int | float | moment | arr | table => cases h

theorem isSome_of_choice {d : Dialect} {c : Choice α} {a : α} (htable : ¬(written o item).IsTable)
    (h : choice d c (written o item) = .ok a) : (ofItem? o item).isSome := by
  cases item with
  | str | int | float | bool => rfl
  | moment | table => exact absurd trivial htable
  | arr => cases d <;> cases h

variable {read : Tree → Decoded α}

theorem isSome_of_optional {found : Option α}
    (hread : ∀ a, read (written o item) = .ok a → (ofItem? o item).isSome)
    (h : optional read (written o item) = .ok found) : (ofItem? o item).isSome := by
  have hsome : optional read (written o item) = some <$> read (written o item) := by
    cases item <;> rfl
  rw [hsome] at h
  obtain ⟨a, ha, -⟩ := Except.map_eq_ok_iff.1 h
  exact hread a ha

theorem exists_of_items {i : Nat} {ts : List Tree} {as : List α} (h : items read i ts = .ok as) :
    ∀ t ∈ ts, ∃ a, read t = .ok a := by
  induction ts generalizing i as with
  | nil => nofun
  | cons t rest ih =>
    rw [items] at h
    obtain ⟨a, ha, h⟩ := Except.bind_eq_ok_iff.1 h
    obtain ⟨more, hmore, -⟩ := Except.bind_eq_ok_iff.1 h
    exact List.forall_mem_cons.2 ⟨⟨a, below_eq_ok_iff.1 ha⟩, ih hmore⟩

theorem isSome_of_list {as : List α}
    (hread : ∀ items, item = .arr items → ∀ i ∈ items, ∀ a, read (written o i) = .ok a →
      (ofItem? o i).isSome)
    (h : list read (written o item) = .ok as) : (ofItem? o item).isSome := by
  cases item with
  | str | int | float | bool | moment | table => cases h
  | arr held =>
    refine isSome_ofItem?_arr fun i hi => ?_
    have hitems : items read 0 (writtenItems o held) = .ok as := h
    obtain ⟨a, ha⟩ := exists_of_items hitems (written o i) (by
      rw [writtenItems_eq_map]
      exact List.mem_map_of_mem hi)
    exact hread held rfl i hi a ha

theorem Field.read_of_set {name : String} {put : α → ρ → ρ} {t : Tree} {r r' : ρ}
    (h : (Field.of name read put).set t r = .ok r') : ∃ a, read t = .ok a := by
  obtain ⟨a, ha, -⟩ := Except.bind_eq_ok_iff.1 h
  exact ⟨a, ha⟩

theorem field_of_entries {s : RecordShape ρ} {es : Layer} {r r' : ρ} (h : entries s es r = .ok r') :
    ∀ e ∈ es, ∃ f ∈ s.fields, f.name = e.1 ∧ ∃ r₁ r₂, f.set e.2 r₁ = .ok r₂ := by
  induction es generalizing r with
  | nil => nofun
  | cons e rest ih =>
    rw [entries] at h
    cases hfind : s.fields.find? (·.name == e.1) with
    | none =>
      rw [hfind] at h
      cases h
    | some f =>
      rw [hfind] at h
      obtain ⟨next, hnext, hrest⟩ := Except.bind_eq_ok_iff.1 h
      have hname : (f.name == e.1) = true :=
        List.find?_some (p := fun f : Field ρ => f.name == e.1) hfind
      exact List.forall_mem_cons.2
        ⟨⟨f, List.mem_of_find?_eq_some hfind, eq_of_beq hname, r, next, below_eq_ok_iff.1 hnext⟩,
          ih hrest⟩

/-- A table that is read as a record has a layer if what its fields hold has one: no field goes by
the key for marks. -/
theorem isSome_of_entries {s : RecordShape ρ} {es : List (String × Item)} {r r' : ρ}
    (hmark : markKey ∉ s.fields.map Field.name) (hdistinct : (Item.table es).Distinct)
    (h : entries s (writtenEntries o es) r = .ok r')
    (hfields : ∀ e ∈ es, ∀ f ∈ s.fields, f.name = e.1 → ∀ r₁ r₂, f.set (written o e.2) r₁ = .ok r₂ →
      (ofItem? o e.2).isSome) :
    (∀ e ∈ es, (ofItem? o e.2).isSome) ∧ (ofItem? o (.table es)).isSome := by
  have hread : ∀ e ∈ es, ∃ f ∈ s.fields, f.name = e.1 ∧
      ∃ r₁ r₂, f.set (written o e.2) r₁ = .ok r₂ := fun e he => by
    have hget : Keyed.get? e.1 (writtenEntries o es) = some (written o e.2) := by
      rw [get?_writtenEntries, Keyed.get?_eq_some_of_nodup hdistinct.1 he, Option.map_some]
    exact field_of_entries h _ (Keyed.mem_of_get? hget)
  have hitems : ∀ e ∈ es, (ofItem? o e.2).isSome := fun e he => by
    obtain ⟨f, hf, hname, r₁, r₂, hset⟩ := hread e he
    exact hfields e he f hf hname r₁ r₂ hset
  refine ⟨hitems, isSome_ofItem?_table hitems fun hmem => ?_⟩
  obtain ⟨e, he, hkey⟩ := List.mem_map.1 hmem
  obtain ⟨f, hf, hname, -⟩ := hread e he
  exact hmark (List.mem_map.2 ⟨f, hf, hname.trans hkey⟩)

theorem isSome_of_record {s : RecordShape ρ} {d : Dialect} {start r : ρ}
    (hmark : markKey ∉ s.fields.map Field.name) (htable : (written o item).IsTable)
    (hdistinct : item.Distinct) (h : record d s start (written o item) = .ok r)
    (hfields : ∀ es, item = .table es → ∀ e ∈ es, ∀ f ∈ s.fields, f.name = e.1 →
      ∀ r₁ r₂, f.set (written o e.2) r₁ = .ok r₂ → (ofItem? o e.2).isSome) :
    (ofItem? o item).isSome := by
  cases item with
  | str | int | float | bool | arr => exact htable.elim
  | moment => rfl
  | table es => exact (isSome_of_entries hmark hdistinct h (hfields es rfl)).2

theorem isSome_of_directory {entry : DirectorySettings} (htable : (written o item).IsTable)
    (hdistinct : item.Distinct) (h : directory .document (written o item) = .ok entry) :
    (ofItem? o item).isSome := by
  obtain ⟨r, hr, -⟩ := Except.bind_eq_ok_iff.1 h
  refine isSome_of_record (by decide) htable hdistinct hr fun es _ e he f hf _ r₁ r₂ hset => ?_
  simp only [directoryShape, List.mem_cons, List.not_mem_nil, or_false] at hf
  rcases hf with rfl | rfl
  · obtain ⟨s, hs⟩ := Field.read_of_set hset
    exact isSome_of_textAs hs
  · obtain ⟨ps, hps⟩ := Field.read_of_set hset
    exact isSome_of_list (fun _ _ _ _ _ => isSome_of_path) hps

end Decoded

open Toml

variable {o : Origin}

theorem given?_writtenEntries {entries es : List (String × Item)} {name : String}
    (hget : Keyed.get? name (writtenEntries o entries) = some (written o (.table es)))
    (hdistinct : (Item.table es).Distinct) {e : String × Item} (he : e ∈ es) :
    given? (writtenEntries o entries) name e.1 = some (written o e.2) := by
  unfold given?
  rw [sectionOf_of_table hget, get?_writtenEntries, Keyed.get?_eq_some_of_nodup hdistinct.1 he,
    Option.map_some]

namespace Conventional

variable {entries : List (String × Item)} {item : Item}

theorem isSome_of_discovery {r : DiscoverySettings} (h : Conventional (writtenEntries o entries))
    (hget : Keyed.get? "discovery" (writtenEntries o entries) = some (written o item))
    (hdistinct : item.Distinct)
    (hread : record .document (discoveryShape .document) {} (written o item) = .ok r) :
    (ofItem? o item).isSome := by
  have htable := (Section.forall_mem_all.1 h.sections).1 _ hget
  refine isSome_of_record (by decide) htable hdistinct hread fun es hes e he f hf hname r₁ r₂ hset => ?_
  subst hes
  have hgiven : given? (writtenEntries o entries) "discovery" f.name = some (written o e.2) :=
    hname ▸ given?_writtenEntries hget hdistinct he
  simp only [discoveryShape, List.mem_cons, List.not_mem_nil, or_false] at hf
  rcases hf with rfl | rfl | rfl | rfl | rfl <;> obtain ⟨a, ha⟩ := Field.read_of_set hset
  · exact isSome_of_choice (h.format _ hgiven) ha
  · exact isSome_of_optional (fun _ => isSome_of_textAs) ha
  · exact isSome_of_textAs ha
  · exact isSome_of_optional (fun _ => isSome_of_textAs) ha
  · refine isSome_of_list (fun items hitems i hi entry => isSome_of_directory ?_ ?_) ha
    · rw [hitems] at hgiven
      refine h.directories _ _ hgiven _ ?_
      rw [writtenItems_eq_map]
      exact List.mem_map_of_mem hi
    · have hlisted := (Item.distinct_table_iff.1 hdistinct).2 e he
      rw [hitems] at hlisted
      exact Item.distinct_arr_iff.1 hlisted i hi

theorem isSome_of_manager {r : ManagerSettings} (h : Conventional (writtenEntries o entries))
    (hget : Keyed.get? "manager" (writtenEntries o entries) = some (written o item))
    (hdistinct : item.Distinct)
    (hread : record .document (managerShape .document) {} (written o item) = .ok r) :
    (ofItem? o item).isSome := by
  have htable := (Section.forall_mem_all.1 h.sections).2.2.1 _ hget
  refine isSome_of_record (by decide) htable hdistinct hread fun es hes e he f hf hname r₁ r₂ hset => ?_
  subst hes
  have hgiven : given? (writtenEntries o entries) "manager" f.name = some (written o e.2) :=
    hname ▸ given?_writtenEntries hget hdistinct he
  simp only [managerShape, List.mem_cons, List.not_mem_nil, or_false] at hf
  rcases hf with rfl | rfl | rfl | rfl <;> obtain ⟨a, ha⟩ := Field.read_of_set hset
  · exact isSome_of_choice (h.strategy _ hgiven) ha
  · exact isSome_of_optional (fun _ => isSome_of_textAs) ha
  · exact isSome_of_optional (fun _ => isSome_of_textAs) ha
  · exact isSome_of_optional (fun _ => isSome_of_list fun _ _ _ _ _ => isSome_of_textAs) ha

theorem isSome_of_cache {r : CacheSettings} (htable : (written o item).IsTable)
    (hdistinct : item.Distinct) (hread : record .document cacheShape {} (written o item) = .ok r) :
    (ofItem? o item).isSome := by
  refine isSome_of_record (by decide) htable hdistinct hread fun es _ e _ f hf _ r₁ r₂ hset => ?_
  simp only [cacheShape, List.mem_cons, List.not_mem_nil, or_false] at hf
  rcases hf with rfl | rfl <;> obtain ⟨a, ha⟩ := Field.read_of_set hset
  · exact isSome_of_boolean ha
  · exact isSome_of_textAs ha

theorem isSome_of_logging {r : LoggingSettings} (htable : (written o item).IsTable)
    (hdistinct : item.Distinct) (hread : record .document loggingShape {} (written o item) = .ok r) :
    (ofItem? o item).isSome := by
  refine isSome_of_record (by decide) htable hdistinct hread fun es _ e _ f hf _ r₁ r₂ hset => ?_
  simp only [loggingShape, List.mem_cons, List.not_mem_nil, or_false] at hf
  obtain ⟨a, ha⟩ := Field.read_of_set (hf ▸ hset)
  exact isSome_of_textAs ha

theorem isSome_of_decode {s : Settings} (h : Conventional (writtenEntries o entries))
    (hdistinct : (Item.table entries).Distinct)
    (hread : decode .document (.table none (writtenEntries o entries)) = .ok s) :
    (ofEntries? o entries).isSome := by
  refine isSome_ofEntries? (isSome_of_entries (s := shape .document) (by decide) hdistinct hread
    fun e he f hf hname r₁ r₂ hset => ?_).1
  have hget : Keyed.get? f.name (writtenEntries o entries) = some (written o e.2) := by
    rw [hname, get?_writtenEntries, Keyed.get?_eq_some_of_nodup hdistinct.1 he, Option.map_some]
  have hitem := (Item.distinct_table_iff.1 hdistinct).2 e he
  obtain ⟨-, hcache, -, hlogging⟩ := Section.forall_mem_all.1 h.sections
  simp only [shape, List.mem_cons, List.not_mem_nil, or_false] at hf
  rcases hf with rfl | rfl | rfl | rfl <;> obtain ⟨r, hr⟩ := Field.read_of_set hset
  · exact h.isSome_of_discovery hget hitem hr
  · exact isSome_of_cache (hcache _ hget) hitem hr
  · exact h.isSome_of_manager hget hitem hr
  · exact isSome_of_logging (hlogging _ hget) hitem hr

end Conventional

end PluginHost.Settings
