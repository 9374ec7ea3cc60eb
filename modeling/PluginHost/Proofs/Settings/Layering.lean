import PluginHost.Keyed.Lemmas
import PluginHost.Settings.Tree

/-!
What stands where in laid layers. Under a key the upper layer counts and the lower one only where the
upper has nothing, unless both hold tables there: these are joined in turn.
-/
namespace PluginHost.Settings

open Keyed (Ordered)

namespace Tree

def IsTable : Tree → Prop
  | .table _ _ => True
  | _ => False

instance : DecidablePred IsTable
  | .table _ _ => isTrue trivial
  | .scalar _ _ | .list _ _ => isFalse id

def IsNull : Tree → Prop
  | .scalar _ .null => True
  | _ => False

def laid? : Option Tree → Option Tree → Option Tree
  | some lower, some upper => some (layOver lower upper)
  | some lower, none => some lower
  | none, upper => upper

@[simp] theorem laid?_none (t : Option Tree) : laid? t none = t := by
  cases t <;> rfl

@[simp] theorem none_laid? (t : Option Tree) : laid? none t = t := rfl

theorem layOver_of_not_table {lower upper : Tree} (h : ¬upper.IsTable) :
    layOver lower upper = upper := by
  cases upper with
  | table o entries => exact absurd trivial h
  | scalar | list => unfold layOver; rfl

theorem layOver_tables (o o' : Option Origin) (entries upper : Layer) :
    layOver (.table o entries) (.table o' upper) = .table o' (layEntries entries upper) := by
  unfold layOver
  rfl

theorem layOver_table_of_not_table {lower : Tree} (h : ¬lower.IsTable) (o : Option Origin)
    (upper : Layer) : layOver lower (.table o upper) = .table o upper := by
  cases lower with
  | table o entries => exact absurd trivial h
  | scalar | list => unfold layOver; rfl

theorem isTable_layOver {lower upper : Tree} (h : upper.IsTable) : (layOver lower upper).IsTable := by
  cases upper with
  | table o entries => cases lower <;> (unfold layOver; trivial)
  | scalar | list => exact h.elim

theorem layEntries_cons (entries : Layer) (key : String) (upper : Tree) (rest : Layer) :
    ∃ laid, some laid = laid? (Keyed.get? key entries) (some upper) ∧
      layEntries entries ((key, upper) :: rest) = layEntries (Keyed.insert key laid entries) rest := by
  cases hget : Keyed.get? key entries with
  | none => exact ⟨upper, rfl, by rw [layEntries, hget]⟩
  | some lower => exact ⟨layOver lower upper, rfl, by rw [layEntries, hget]⟩

theorem ordered_layEntries {entries upper : Layer} (h : Ordered entries) :
    Ordered (layEntries entries upper) := by
  induction upper generalizing entries with
  | nil => rwa [layEntries]
  | cons e rest ih =>
    obtain ⟨laid, -, heq⟩ := layEntries_cons entries e.1 e.2 rest
    rw [heq]
    exact ih (Keyed.ordered_insert h)

theorem get?_layEntries {entries upper : Layer} (h : Ordered upper) (key : String) :
    Keyed.get? key (layEntries entries upper) =
      laid? (Keyed.get? key entries) (Keyed.get? key upper) := by
  induction upper generalizing entries with
  | nil => simp [layEntries, Keyed.get?]
  | cons e rest ih =>
    obtain ⟨laid, hlaid, heq⟩ := layEntries_cons entries e.1 e.2 rest
    rw [heq, ih (List.pairwise_cons.1 h).2, Keyed.get?_insert]
    by_cases hkey : e.1 = key
    · subst hkey
      simp [Keyed.get?, Keyed.get?_eq_none_of_ordered h, hlaid]
    · simp [Keyed.get?, hkey]

theorem layEntries_nil {upper : Layer} (h : Ordered upper) : layEntries [] upper = upper := by
  refine Keyed.eq_of_get? (ordered_layEntries Keyed.ordered_nil) h fun key => ?_
  rw [get?_layEntries h]
  rfl

theorem mem_keys_layEntries_iff {entries upper : Layer} (h : Ordered upper) {key : String} :
    key ∈ (layEntries entries upper).map Prod.fst ↔
      key ∈ entries.map Prod.fst ∨ key ∈ upper.map Prod.fst := by
  rw [← Decidable.not_iff_not, not_or]
  simp only [← Keyed.get?_eq_none_iff, get?_layEntries h]
  cases Keyed.get? key entries <;> cases Keyed.get? key upper <;> simp [laid?]

theorem or_of_laid? {lower upper : Option Tree} {t : Tree} (h : laid? lower upper = some t)
    (ht : ¬t.IsTable) : upper.or lower = some t := by
  cases upper with
  | none => simpa using h
  | some u =>
    cases lower with
    | none => simpa using h
    | some l =>
      have hlaid : layOver l u = t := Option.some.inj h
      have hu : ¬u.IsTable := fun hu => ht (hlaid ▸ isTable_layOver hu)
      rw [layOver_of_not_table hu] at hlaid
      rw [hlaid]
      rfl

theorem laid?_of_not_table {lower : Tree} (h : ¬lower.IsTable) (upper : Option Tree) :
    laid? (some lower) upper = some (upper.getD lower) := by
  cases upper with
  | none => rfl
  | some u =>
    cases u with
    | table o entries => exact congrArg some (layOver_table_of_not_table h o entries)
    | scalar | list => exact congrArg some (layOver_of_not_table id)

mutual

/-- In tables keys are in order and hold something, at all depths. -/
def Filled : Tree → Prop
  | .table _ entries => Ordered entries ∧ FilledEntries entries
  | .scalar _ _ | .list _ _ => True

def FilledEntries : Layer → Prop
  | [] => True
  | (_, t) :: rest => (¬t.IsNull ∧ t.Filled) ∧ FilledEntries rest

end

theorem filledEntries_iff {entries : Layer} :
    FilledEntries entries ↔ ∀ e ∈ entries, ¬e.2.IsNull ∧ e.2.Filled := by
  induction entries with
  | nil => simp [FilledEntries]
  | cons e rest ih => rw [FilledEntries, ih, List.forall_mem_cons]

theorem filledEntries_insert {key : String} {t : Tree} {entries : Layer} (ht : ¬t.IsNull ∧ t.Filled)
    (h : FilledEntries entries) : FilledEntries (Keyed.insert key t entries) := by
  rw [filledEntries_iff] at h ⊢
  intro e he
  rcases Keyed.mem_of_mem_insert he with rfl | he
  · exact ht
  · exact h e he

theorem filledEntries_ofList {entries : List (String × Tree)}
    (h : ∀ e ∈ entries, ¬e.2.IsNull ∧ e.2.Filled) : FilledEntries (Keyed.ofList entries) := by
  suffices hfold : ∀ acc : Layer, FilledEntries acc →
      FilledEntries (entries.foldl (fun acc e => Keyed.insert e.1 e.2 acc) acc) from hfold [] trivial
  induction entries with
  | nil => exact fun acc hacc => hacc
  | cons e rest ih =>
    obtain ⟨he, hrest⟩ := List.forall_mem_cons.1 h
    exact fun acc hacc => ih hrest _ (filledEntries_insert he hacc)

theorem not_isNull_layOver {lower upper : Tree} (h : ¬upper.IsNull) : ¬(layOver lower upper).IsNull := by
  by_cases htable : upper.IsTable
  · have hlaid : (layOver lower upper).IsTable := isTable_layOver htable
    cases hresult : layOver lower upper with
    | table => exact id
    | scalar | list => rw [hresult] at hlaid; exact hlaid.elim
  · rwa [layOver_of_not_table htable]

mutual

theorem filled_layOver (lower upper : Tree) (hlower : lower.Filled) (hupper : upper.Filled) :
    (layOver lower upper).Filled := by
  match lower, upper with
  | .table o entries, .table o' upper =>
    rw [layOver_tables]
    exact ⟨ordered_layEntries hlower.1, filledEntries_layEntries entries upper hlower.2 hupper.2⟩
  | .scalar _ _, .table o' upper | .list _ _, .table o' upper =>
    rwa [layOver_table_of_not_table id]
  | _, .scalar _ _ | _, .list _ _ => rwa [layOver_of_not_table id]

theorem filledEntries_layEntries (entries upper : Layer) (hentries : FilledEntries entries)
    (hupper : FilledEntries upper) : FilledEntries (layEntries entries upper) := by
  match upper with
  | [] => rwa [layEntries]
  | (key, t) :: rest =>
    rw [layEntries]
    refine filledEntries_layEntries _ rest (filledEntries_insert ?_ hentries) hupper.2
    split
    · next lower hget =>
      have hlower := filledEntries_iff.1 hentries _ (Keyed.mem_of_get? hget)
      exact ⟨not_isNull_layOver hupper.1.1, filled_layOver lower t hlower.2 hupper.1.2⟩
    · exact hupper.1

end

end Tree

def sectionOf (layer : Layer) (name : String) : Layer :=
  match Keyed.get? name layer with
  | some (.table _ entries) => entries
  | _ => []

def given? (layer : Layer) (name key : String) : Option Tree := Keyed.get? key (sectionOf layer name)

def TableAt (layer : Layer) (name : String) : Prop :=
  ∀ t, Keyed.get? name layer = some t → t.IsTable

theorem tableAt_of_forall {layer : Layer} (h : ∀ e ∈ layer, e.2.IsTable) (name : String) :
    TableAt layer name :=
  fun _ ht => h _ (Keyed.mem_of_get? ht)

theorem sectionOf_of_table {layer : Layer} {name : String} {o : Option Origin} {entries : Layer}
    (h : Keyed.get? name layer = some (.table o entries)) : sectionOf layer name = entries := by
  unfold sectionOf
  rw [h]

theorem sectionOf_of_none {layer : Layer} {name : String} (h : Keyed.get? name layer = none) :
    sectionOf layer name = [] := by
  unfold sectionOf
  rw [h]

theorem sectionOf_singleton (key name : String) (o : Option Origin) (entries : Layer) :
    sectionOf [(key, .table o entries)] name = if key = name then entries else [] := by
  unfold sectionOf
  by_cases h : key = name <;> simp [Keyed.get?, h]

theorem TableAt.cases {layer : Layer} {name : String} (h : TableAt layer name) :
    Keyed.get? name layer = none ∨ ∃ o entries, Keyed.get? name layer = some (.table o entries) := by
  cases hget : Keyed.get? name layer with
  | none => exact .inl rfl
  | some t =>
    have ht := h t hget
    cases t with
    | table o entries => exact .inr ⟨o, entries, rfl⟩
    | scalar | list => exact ht.elim

open Settings.Tree

variable {lower upper : Layer} {name : String}

theorem TableAt.layEntries (hordered : Ordered upper) (hlower : TableAt lower name)
    (hupper : TableAt upper name) : TableAt (layEntries lower upper) name := by
  intro t ht
  rw [get?_layEntries hordered] at ht
  cases hu : Keyed.get? name upper with
  | none =>
    rw [hu, laid?_none] at ht
    exact hlower t ht
  | some u =>
    rw [hu] at ht
    cases hl : Keyed.get? name lower with
    | none =>
      rw [hl] at ht
      exact Option.some.inj ht ▸ hupper u hu
    | some l =>
      rw [hl] at ht
      exact Option.some.inj ht ▸ isTable_layOver (hupper u hu)

theorem sectionOf_layEntries (hordered : Ordered upper) (hsection : Ordered (sectionOf upper name))
    (hlower : TableAt lower name) (hupper : TableAt upper name) :
    sectionOf (Tree.layEntries lower upper) name =
      Tree.layEntries (sectionOf lower name) (sectionOf upper name) := by
  have hget := @get?_layEntries lower upper hordered name
  rcases hupper.cases with hu | ⟨o', us, hu⟩
  · rw [hu, laid?_none] at hget
    rw [sectionOf_of_none hu, Tree.layEntries]
    unfold sectionOf
    rw [hget]
  · rw [sectionOf_of_table hu] at hsection ⊢
    rcases hlower.cases with hl | ⟨o, ls, hl⟩
    · rw [hl, hu, none_laid?] at hget
      rw [sectionOf_of_none hl, sectionOf_of_table hget, layEntries_nil hsection]
    · rw [hl, hu] at hget
      rw [sectionOf_of_table hl]
      exact sectionOf_of_table (hget.trans (congrArg some (layOver_tables o o' ls us)))

theorem given?_layEntries (hordered : Ordered upper) (hsection : Ordered (sectionOf upper name))
    (hlower : TableAt lower name) (hupper : TableAt upper name) (key : String) :
    given? (Tree.layEntries lower upper) name key =
      laid? (given? lower name key) (given? upper name key) := by
  unfold given?
  rw [sectionOf_layEntries hordered hsection hlower hupper, get?_layEntries hsection]

end PluginHost.Settings
