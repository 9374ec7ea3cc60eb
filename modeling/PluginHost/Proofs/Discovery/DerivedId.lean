import PluginHost.Proofs.Discovery.Expansion
import PluginHost.Proofs.Text.Split

/-!
Ids of derivatives and their parts. Expansion joins the id of the base and the derivative id by a
separator, and an id is parted at its first one. So the parts of a derived id are those that it was
made of exactly if the id of the base holds no separator; else it is parted where that id is.
-/
namespace PluginHost

variable {id base key : String}

theorem baseId_of_no_separator (h : derivativeSeparator ∉ id.toList) :
    baseId id = id ∧ derivativeId id = none := by
  unfold baseId derivativeId
  rw [Text.splitFirst_eq_none_iff.2 h]
  exact ⟨rfl, rfl⟩

theorem parts_of_first_separator (h : derivativeSeparator ∉ base.toList) :
    baseId (base ++ ":" ++ key) = base ∧ derivativeId (base ++ ":" ++ key) = some key := by
  have hsplit : Text.splitFirst derivativeSeparator (base ++ ":" ++ key).toList =
      some (base.toList, key.toList) := by
    rw [Text.splitFirst_eq_some_iff]
    exact ⟨by simp [derivativeSeparator], h⟩
  unfold baseId derivativeId
  rw [hsplit]
  simp

theorem exists_first_separator (h : derivativeSeparator ∈ id.toList) :
    ∃ base key, id = base ++ ":" ++ key ∧ derivativeSeparator ∉ base.toList := by
  cases hsplit : Text.splitFirst derivativeSeparator id.toList with
  | none => exact absurd h (Text.splitFirst_eq_none_iff.1 hsplit)
  | some parts =>
    obtain ⟨hid, hbefore⟩ := Text.splitFirst_eq_some_iff.1 hsplit
    refine ⟨String.ofList parts.1, String.ofList parts.2, String.toList_injective ?_, by simpa⟩
    simpa [derivativeSeparator] using hid

theorem separator_not_mem_baseId (id : String) : derivativeSeparator ∉ (baseId id).toList := by
  by_cases h : derivativeSeparator ∈ id.toList
  · obtain ⟨base, key, rfl, hbase⟩ := exists_first_separator h
    rwa [(parts_of_first_separator hbase).1]
  · rwa [(baseId_of_no_separator h).1]

theorem baseId_eq_self_iff : baseId id = id ↔ derivativeSeparator ∉ id.toList :=
  ⟨fun h => h ▸ separator_not_mem_baseId id, fun h => (baseId_of_no_separator h).1⟩

/-- What is joined to an id does not move its first separator. -/
theorem parts_of_derived (base key : String) :
    baseId (base ++ ":" ++ key) = baseId base ∧
      derivativeId (base ++ ":" ++ key) = some ((derivativeId base).elim key (· ++ ":" ++ key)) := by
  by_cases h : derivativeSeparator ∈ base.toList
  · obtain ⟨first, rest, rfl, hfirst⟩ := exists_first_separator h
    have hjoined : first ++ ":" ++ rest ++ ":" ++ key = first ++ ":" ++ (rest ++ ":" ++ key) := by
      simp only [String.append_assoc]
    have hparts : baseId (first ++ ":" ++ rest) = first ∧
        derivativeId (first ++ ":" ++ rest) = some rest := parts_of_first_separator hfirst
    rw [hjoined, hparts.1, hparts.2]
    exact parts_of_first_separator hfirst
  · obtain ⟨hbase, hnone⟩ := baseId_of_no_separator h
    rw [hbase, hnone]
    exact parts_of_first_separator h

namespace Processing

/-- A derivative is added under the id that is made of its base's id and its derivative id. These are
the parts of its id exactly if the base's id holds no separator, and then it is the base's id under
which its constructor is looked for if it has no class. Otherwise its parts are those of the base's
id, with the derivative id at the end of the second one. -/
theorem derived_parts_iff {σ : Type} (p : Processing) (discovered : DefinitionMap)
    (hids : discovered.KeyedById) (id : String) (base : Definition)
    (hbase : discovered.get? id = some base) (derivatives : DefinitionMap)
    (hderives : p.Derives base derivatives) (key : String) (made : Definition)
    (hmade : derivatives.get? key = some made) (s : σ) :
    let d := derivative id base key made
    (∃ new, p.expansion id base = .ok new ∧ d ∈ new) ∧
    (∀ all, (p.expand discovered : Action σ DefinitionMap).result s = .ok all →
      ∃ kept, all.get? d.id = some kept ∧ kept.id = d.id) ∧
    (baseId d.id = base.id ∧ derivativeId d.id = some key ↔
      derivativeSeparator ∉ base.id.toList) ∧
    (made.className = none → d.implementation = baseId base.id ∧
      (d.implementation = base.id ↔ derivativeSeparator ∉ base.id.toList)) ∧
    baseId d.id = baseId base.id ∧
      derivativeId d.id = some ((derivativeId base.id).elim key (· ++ ":" ++ key)) := by
  intro d
  obtain rfl : base.id = id := hids id base hbase
  have hd : d.id = base.id ++ ":" ++ key := rfl
  obtain ⟨hfirst, hsecond⟩ := parts_of_derived base.id key
  rw [← hd] at hfirst hsecond
  refine ⟨⟨_, expansion_derives hderives, ?_⟩, fun all hall => ?_, ⟨?_, ?_⟩, fun hclass => ?_, hfirst,
    hsecond⟩
  · exact List.mem_map.2 ⟨(key, made), KeyedMap.mem_entries_iff.2 hmade, rfl⟩
  · have hexpanded : p.expandedFrom discovered.entries .empty = .ok all :=
      (congrArg Prod.fst (outcome_expandFrom p discovered.entries .empty s)).symm.trans hall
    have hderived : p.DerivedFrom discovered.entries base.id d.id d :=
      ⟨base, derivatives, key, made, KeyedMap.mem_entries_iff.2 hbase, hderives, hmade, rfl,
        derivative_eq _ _ _ _⟩
    obtain ⟨kept, hkept⟩ := exists_mostSpecific_iff.2 (.inr ⟨_, _, hderived⟩)
    exact ⟨kept, (get?_expandedFrom_empty hids hexpanded d.id kept).2 hkept,
      (hkept.id_deriver hids.entries).1⟩
  · rintro ⟨h, -⟩
    exact baseId_eq_self_iff.1 (hfirst.symm.trans h)
  · exact parts_of_first_separator
  · have himplementation : d.implementation = baseId base.id := by
      change made.className.getD (baseId d.id) = _
      rw [hclass, hfirst]
      rfl
    rw [himplementation, baseId_eq_self_iff]
    exact ⟨rfl, Iff.rfl⟩

def menuDerivers : Processing where
  derivers := KeyedMap.empty.insert "menus" fun _ =>
    .ok (KeyedMap.empty.insert "main" { id := "", provider := "system" })

def menuBase : Definition := { id := "menu:block", provider := "system", deriver := some "menus" }

def menuBases : DefinitionMap := KeyedMap.empty.insert "menu:block" menuBase

theorem keyedById_menuBases : menuBases.KeyedById := by
  intro id d h
  change (KeyedMap.empty.insert "menu:block" menuBase).get? id = some d at h
  rw [KeyedMap.get?_insert] at h
  split at h
  · next hid =>
    cases h
    exact hid
  · cases h

theorem derives_menuBase : menuDerivers.Derives menuBase
    (KeyedMap.empty.insert "main" { id := "", provider := "system" }) :=
  ⟨"menus", _, rfl, rfl, rfl⟩

theorem menuBase_parts :
    menuBases.KeyedById ∧ menuBases.get? "menu:block" = some menuBase ∧
      menuDerivers.Derives menuBase (KeyedMap.empty.insert "main" { id := "", provider := "system" }) ∧
      baseId (derivative "menu:block" menuBase "main" { id := "", provider := "system" }).id = "menu" ∧
      derivativeId (derivative "menu:block" menuBase "main" { id := "", provider := "system" }).id =
        some "block:main" := by
  obtain ⟨-, -, -, -, hfirst, hsecond⟩ := derived_parts_iff menuDerivers menuBases keyedById_menuBases
    "menu:block" menuBase rfl _ derives_menuBase "main" { id := "", provider := "system" } rfl ()
  exact ⟨keyedById_menuBases, rfl, derives_menuBase, hfirst.trans (by decide),
    hsecond.trans (by decide)⟩

/-- Not every derived id is parted into what it was made of. -/
theorem not_every_derived_id_parted :
    ¬∀ (p : Processing) (discovered : DefinitionMap), discovered.KeyedById →
      ∀ id base, discovered.get? id = some base → ∀ derivatives, p.Derives base derivatives →
        ∀ key made, derivatives.get? key = some made →
          baseId (derivative id base key made).id = base.id ∧
            derivativeId (derivative id base key made).id = some key := by
  intro h
  obtain ⟨hfirst, -⟩ := h menuDerivers menuBases keyedById_menuBases "menu:block" menuBase rfl _
    derives_menuBase "main" { id := "", provider := "system" } rfl
  revert hfirst
  decide

end Processing

end PluginHost
