import PluginHost.Proofs.Settings.Layering
import PluginHost.Proofs.Toml.Distinct

/-!
The tree that a document writes when no key of a table stands for more than itself, and how the layer
of the document differs from it: a table with the key for contents is replaced by these, and one with
the key for marks is refused.
-/
namespace PluginHost

open Keyed (Ordered)

namespace Toml.Item

mutual

def Lacks (key : String) : Item → Prop
  | .arr items => LackItems key items
  | .table entries => key ∉ entries.map Prod.fst ∧ LackEntries key entries
  | _ => True

def LackItems (key : String) : List Item → Prop
  | [] => True
  | item :: rest => item.Lacks key ∧ LackItems key rest

def LackEntries (key : String) : List (String × Item) → Prop
  | [] => True
  | (_, item) :: rest => item.Lacks key ∧ LackEntries key rest

end

end Toml.Item

namespace Settings.Tree

open Toml

mutual

def written (origin : Origin) : Item → Tree
  | .str s => .scalar origin (.str s)
  | .int n => .scalar origin (.signed n)
  | .float x => .scalar origin (.float x)
  | .bool b => .scalar origin (.bool b)
  | .moment text => .table origin [(momentKey, .scalar origin (.str text))]
  | .arr items => .list origin (writtenItems origin items)
  | .table entries => .table origin (writtenEntries origin entries)

def writtenItems (origin : Origin) : List Item → List Tree
  | [] => []
  | item :: rest => written origin item :: writtenItems origin rest

def writtenEntries (origin : Origin) : List (String × Item) → Layer
  | [] => []
  | (key, item) :: rest => Keyed.insert key (written origin item) (writtenEntries origin rest)

end

variable {o : Origin}

theorem ordered_writtenEntries (entries : List (String × Item)) :
    Ordered (writtenEntries o entries) := by
  induction entries with
  | nil => exact Keyed.ordered_nil
  | cons e rest ih =>
    rw [writtenEntries]
    exact Keyed.ordered_insert ih

theorem get?_writtenEntries (key : String) (entries : List (String × Item)) :
    Keyed.get? key (writtenEntries o entries) = (Keyed.get? key entries).map (written o) := by
  induction entries with
  | nil => rfl
  | cons e rest ih =>
    rw [writtenEntries, Keyed.get?_insert, ih, Keyed.get?]
    split <;> rfl

theorem mem_keys_writtenEntries_iff {key : String} {entries : List (String × Item)} :
    key ∈ (writtenEntries o entries).map Prod.fst ↔ key ∈ entries.map Prod.fst := by
  rw [← Decidable.not_iff_not, ← Keyed.get?_eq_none_iff, ← Keyed.get?_eq_none_iff,
    get?_writtenEntries, Option.map_eq_none_iff]

theorem writtenItems_eq_map (items : List Item) : writtenItems o items = items.map (written o) := by
  induction items with
  | nil => rfl
  | cons item rest ih => rw [writtenItems, ih, List.map_cons]

theorem ordered_of_written {item : Item} {o' : Option Origin} {entries : Layer}
    (h : written o item = .table o' entries) : Ordered entries := by
  cases item with
  | moment text =>
    cases h
    exact List.pairwise_singleton _ _
  | table held =>
    cases h
    exact ordered_writtenEntries held
  | str | int | float | bool | arr => cases h

mutual

/-- Without the key for contents, a layer holds what its document writes. -/
theorem ofItem?_eq_written {t : Tree} (item : Item) (hlacks : item.Lacks contentKey)
    (h : ofItem? o item = some t) : t = written o item := by
  match item with
  | .str _ | .int _ | .float _ | .bool _ | .moment _ => exact (Option.some.inj h).symm
  | .arr items =>
    obtain ⟨ts, hts, heq⟩ := Option.bind_eq_some_iff.1 h
    cases heq
    rw [written, ofItems?_eq_written items hlacks hts]
  | .table entries =>
    obtain ⟨held, hheld, heq⟩ := Option.bind_eq_some_iff.1 h
    have hwritten := ofEntries?_eq_written entries hlacks.2 hheld
    have hnone : Keyed.get? contentKey held = none :=
      hwritten ▸ Keyed.get?_eq_none_iff.2 ((not_congr mem_keys_writtenEntries_iff).2 hlacks.1)
    split at heq
    · cases heq
    · rw [hnone] at heq
      rw [written, ← hwritten]
      exact (Option.some.inj heq).symm

theorem ofItems?_eq_written {ts : List Tree} (items : List Item)
    (hlacks : Item.LackItems contentKey items) (h : ofItems? o items = some ts) :
    ts = writtenItems o items := by
  match items with
  | [] => exact (Option.some.inj h).symm
  | item :: rest =>
    obtain ⟨t, ht, h⟩ := Option.bind_eq_some_iff.1 h
    obtain ⟨more, hmore, heq⟩ := Option.bind_eq_some_iff.1 h
    cases heq
    rw [writtenItems, ofItem?_eq_written item hlacks.1 ht, ofItems?_eq_written rest hlacks.2 hmore]

theorem ofEntries?_eq_written {layer : Layer} (entries : List (String × Item))
    (hlacks : Item.LackEntries contentKey entries) (h : ofEntries? o entries = some layer) :
    layer = writtenEntries o entries := by
  match entries with
  | [] => exact (Option.some.inj h).symm
  | (key, item) :: rest =>
    obtain ⟨t, ht, h⟩ := Option.bind_eq_some_iff.1 h
    obtain ⟨more, hmore, heq⟩ := Option.bind_eq_some_iff.1 h
    cases heq
    rw [writtenEntries, ofItem?_eq_written item hlacks.1 ht,
      ofEntries?_eq_written rest hlacks.2 hmore]

end

theorem isSome_ofItems? {items : List Item} (h : ∀ item ∈ items, (ofItem? o item).isSome) :
    (ofItems? o items).isSome := by
  induction items with
  | nil => rfl
  | cons item rest ih =>
    obtain ⟨hitem, hrest⟩ := List.forall_mem_cons.1 h
    obtain ⟨t, ht⟩ := Option.isSome_iff_exists.1 hitem
    obtain ⟨ts, hts⟩ := Option.isSome_iff_exists.1 (ih hrest)
    simp [ofItems?, ht, hts]

theorem isSome_ofEntries? {entries : List (String × Item)}
    (h : ∀ e ∈ entries, (ofItem? o e.2).isSome) : (ofEntries? o entries).isSome := by
  induction entries with
  | nil => rfl
  | cons e rest ih =>
    obtain ⟨hitem, hrest⟩ := List.forall_mem_cons.1 h
    obtain ⟨t, ht⟩ := Option.isSome_iff_exists.1 hitem
    obtain ⟨layer, hlayer⟩ := Option.isSome_iff_exists.1 (ih hrest)
    simp [ofEntries?, ht, hlayer]

theorem isSome_ofItem?_arr {items : List Item} (h : ∀ item ∈ items, (ofItem? o item).isSome) :
    (ofItem? o (.arr items)).isSome := by
  obtain ⟨ts, hts⟩ := Option.isSome_iff_exists.1 (isSome_ofItems? h)
  simp [ofItem?, hts]

theorem ordered_ofEntries? {entries : List (String × Item)} {layer : Layer}
    (h : ofEntries? o entries = some layer) : Ordered layer := by
  induction entries generalizing layer with
  | nil => exact Option.some.inj h ▸ Keyed.ordered_nil
  | cons e rest ih =>
    obtain ⟨t, -, h⟩ := Option.bind_eq_some_iff.1 h
    obtain ⟨more, hmore, heq⟩ := Option.bind_eq_some_iff.1 h
    cases heq
    exact Keyed.ordered_insert (ih hmore)

theorem mem_keys_of_ofEntries? {entries : List (String × Item)} {layer : Layer}
    (h : ofEntries? o entries = some layer) {key : String} (hkey : key ∈ layer.map Prod.fst) :
    key ∈ entries.map Prod.fst := by
  induction entries generalizing layer with
  | nil =>
    cases h
    exact hkey
  | cons e rest ih =>
    obtain ⟨t, -, h⟩ := Option.bind_eq_some_iff.1 h
    obtain ⟨more, hmore, heq⟩ := Option.bind_eq_some_iff.1 h
    cases heq
    rcases Keyed.mem_keys_insert hkey with rfl | hkey
    · exact List.mem_cons_self
    · exact List.mem_cons_of_mem _ (ih hmore hkey)

/-- A table is refused for its mark or for what stands in it. -/
theorem isSome_ofItem?_table {entries : List (String × Item)}
    (h : ∀ e ∈ entries, (ofItem? o e.2).isSome) (hmark : markKey ∉ entries.map Prod.fst) :
    (ofItem? o (.table entries)).isSome := by
  obtain ⟨layer, hlayer⟩ := Option.isSome_iff_exists.1 (isSome_ofEntries? h)
  have hnone : Keyed.get? markKey layer = none :=
    Keyed.get?_eq_none_iff.2 fun hkey => hmark (mem_keys_of_ofEntries? hlayer hkey)
  simp [ofItem?, hlayer, hnone]

mutual

theorem filled_of_ofItem? {t : Tree} (item : Item) (h : ofItem? o item = some t) :
    ¬t.IsNull ∧ t.Filled := by
  match item with
  | .str _ | .int _ | .float _ | .bool _ =>
    cases h
    exact ⟨id, trivial⟩
  | .moment _ =>
    cases h
    exact ⟨id, List.pairwise_singleton _ _, ⟨id, trivial⟩, trivial⟩
  | .arr items =>
    obtain ⟨ts, -, heq⟩ := Option.bind_eq_some_iff.1 h
    cases heq
    exact ⟨id, trivial⟩
  | .table entries =>
    obtain ⟨held, hheld, heq⟩ := Option.bind_eq_some_iff.1 h
    have hfilled := filledEntries_of_ofEntries? entries hheld
    split at heq
    · cases heq
    · cases hcontent : Keyed.get? contentKey held with
      | none =>
        rw [hcontent] at heq
        cases heq
        exact ⟨id, ordered_ofEntries? hheld, hfilled⟩
      | some content =>
        rw [hcontent] at heq
        cases heq
        exact filledEntries_iff.1 hfilled _ (Keyed.mem_of_get? hcontent)

theorem filledEntries_of_ofEntries? {layer : Layer} (entries : List (String × Item))
    (h : ofEntries? o entries = some layer) : FilledEntries layer := by
  match entries with
  | [] =>
    cases h
    trivial
  | (key, item) :: rest =>
    obtain ⟨t, ht, h⟩ := Option.bind_eq_some_iff.1 h
    obtain ⟨more, hmore, heq⟩ := Option.bind_eq_some_iff.1 h
    cases heq
    exact filledEntries_insert (filled_of_ofItem? item ht) (filledEntries_of_ofEntries? rest hmore)

end

end Settings.Tree

end PluginHost
