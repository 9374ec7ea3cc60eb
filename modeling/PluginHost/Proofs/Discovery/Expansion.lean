import PluginHost.Keyed.Lemmas
import PluginHost.Proofs.Discovery.Processing

/-!
Which definition comes to stand under an id when definitions are expanded. Expansion goes through the
definitions in id order and overwrites, and the ids from which one id can be derived are beginnings
of it, so the order of ids is that of length: a definition without a deriver wins over everything
derived, and of what is derived that with the longest base id wins.
-/
namespace PluginHost

namespace Text

theorem lt_append {a b : String} (h : b ≠ "") : a < a ++ b := by
  have lt_append : ∀ {cs ds : List Char}, ds ≠ [] → cs < cs ++ ds := by
    intro cs ds hds
    induction cs with
    | nil =>
      obtain ⟨d, ds, rfl⟩ := List.exists_cons_of_ne_nil hds
      exact List.nil_lt_cons d ds
    | cons c cs ih => exact List.cons_lt_cons_iff.2 (.inr ⟨rfl, ih⟩)
  rw [String.lt_iff, String.toList_append]
  exact lt_append (by simpa using h)

theorem length_lt_of_lt {a b x y : String} (hx : a ++ x = b ++ y) (h : a < b) :
    a.length < b.length := by
  rw [← Nat.not_le]
  intro hle
  have ha : a.toList <+: (b ++ y).toList := by
    rw [← hx, String.toList_append]
    exact List.prefix_append _ _
  have hb : b.toList <+: (b ++ y).toList := by
    rw [String.toList_append]
    exact List.prefix_append _ _
  obtain ⟨rest, hrest⟩ := List.prefix_of_prefix_length_le hb ha hle
  have heq : a = b ++ String.ofList rest := by
    apply String.toList_injective
    rw [String.toList_append, String.toList_ofList, hrest]
  by_cases hne : String.ofList rest = ""
  · rw [hne, String.append_empty] at heq
    exact String.lt_irrefl b (heq ▸ h)
  · exact String.lt_irrefl b (String.lt_trans (lt_append hne) (heq ▸ h))

end Text

def DefinitionMap.KeyedById (all : DefinitionMap) : Prop :=
  ∀ id d, all.get? id = some d → d.id = id

theorem DefinitionMap.KeyedById.entries {discovered : DefinitionMap} (h : discovered.KeyedById) :
    ∀ f ∈ discovered.entries, f.2.id = f.1 :=
  fun f hf => h f.1 f.2 (KeyedMap.mem_entries_iff.1 hf)

namespace Processing

variable (p : Processing)

def Derives (base : Definition) (derivatives : DefinitionMap) : Prop :=
  ∃ name derive, base.deriver = some name ∧ p.derivers.get? name = some derive ∧
    derive base = .ok derivatives

inductive CannotExpand (id : String) (base : Definition) : PluginError → Prop
  | unregistered {name : String} (names : base.deriver = some name)
      (unregistered : p.derivers.get? name = none) :
      CannotExpand id base (.invalidDefinition base.source (.unregisteredDeriver id name))
  | fails {name : String} {derive : Deriver} {e : PluginError} (names : base.deriver = some name)
      (registered : p.derivers.get? name = some derive) (fails : derive base = .error e) :
      CannotExpand id base e

/-- The error is that of the first definition, in id order, that cannot be expanded. -/
def CannotExpandFirst (discovered : List (String × Definition)) (e : PluginError) : Prop :=
  ∃ id base, (id, base) ∈ discovered ∧ p.CannotExpand id base e ∧
    ∀ other ∈ discovered, other.1 < id → ∀ e', ¬p.CannotExpand other.1 other.2 e'

def Plain (discovered : List (String × Definition)) (id : String) (d : Definition) : Prop :=
  (id, d) ∈ discovered ∧ d.deriver = none

/-- A derivative of the definition `baseId`: below the base's id, without a deriver, and with the
base's provider and source where it has none. -/
def DerivedFrom (discovered : List (String × Definition)) (baseId id : String) (d : Definition) :
    Prop :=
  ∃ base derivatives derivativeId made, (baseId, base) ∈ discovered ∧ p.Derives base derivatives ∧
    derivatives.get? derivativeId = some made ∧ id = baseId ++ ":" ++ derivativeId ∧
    d = { made with
      id := id
      deriver := none
      provider := if made.provider = "" then base.provider else made.provider
      source := made.source.or base.source }

/-- What is to stand under an id: the definition that stays as it is, or else what is derived from
the definition with the longest id. -/
def MostSpecific (discovered : List (String × Definition)) (id : String) (d : Definition) : Prop :=
  Plain discovered id d ∨ ((∀ other, ¬Plain discovered id other) ∧
    ∃ baseId, p.DerivedFrom discovered baseId id d ∧
      ∀ otherId other, p.DerivedFrom discovered otherId id other → otherId.length ≤ baseId.length)

variable {p} {id : String} {base : Definition}

/-! Expanding one definition. -/

theorem expansion_plain (h : base.deriver = none) : p.expansion id base = .ok [base] := by
  unfold expansion
  rw [h]
  rfl

theorem Derives.unique {derivatives other : DefinitionMap} (h : p.Derives base derivatives)
    (hother : p.Derives base other) : derivatives = other := by
  obtain ⟨name, derive, hname, hderive, hmade⟩ := h
  obtain ⟨_, _, hname', hderive', hmade'⟩ := hother
  cases hname.symm.trans hname'
  cases hderive.symm.trans hderive'
  exact Except.ok.inj (hmade.symm.trans hmade')

theorem expansion_derives {derivatives : DefinitionMap} (h : p.Derives base derivatives) :
    p.expansion id base =
      .ok (derivatives.entries.map fun e => derivative id base e.1 e.2) := by
  obtain ⟨name, derive, hname, hderive, hok⟩ := h
  unfold expansion
  simp only [hname, hderive, hok]
  rfl

theorem expansion_cannotExpand {e : PluginError} (h : p.CannotExpand id base e) :
    p.expansion id base = .error e := by
  unfold expansion
  cases h with
  | unregistered names unregistered =>
    simp only [names, unregistered]
    rfl
  | fails names registered fails =>
    simp only [names, registered, fails]
    rfl

theorem expansion_cases (p : Processing) (id : String) (base : Definition) :
    base.deriver = none ∨ (∃ derivatives, p.Derives base derivatives) ∨
      ∃ e, p.CannotExpand id base e := by
  cases hname : base.deriver with
  | none => exact .inl rfl
  | some name =>
    cases hderive : p.derivers.get? name with
    | none => exact .inr (.inr ⟨_, .unregistered hname hderive⟩)
    | some derive =>
      cases hmade : derive base with
      | ok derivatives => exact .inr (.inl ⟨derivatives, name, derive, hname, hderive, hmade⟩)
      | error e => exact .inr (.inr ⟨e, .fails hname hderive hmade⟩)

theorem expansion_eq_error_iff {e : PluginError} :
    p.expansion id base = .error e ↔ p.CannotExpand id base e := by
  refine ⟨fun h => ?_, expansion_cannotExpand⟩
  rcases p.expansion_cases id base with hplain | ⟨derivatives, hderives⟩ | ⟨e', he'⟩
  · cases h.symm.trans (expansion_plain hplain)
  · cases h.symm.trans (expansion_derives hderives)
  · cases h.symm.trans (expansion_cannotExpand he')
    exact he'

theorem expandedFrom_cons_of_ok {new : List Definition} (h : p.expansion id base = .ok new)
    (rest : List (String × Definition)) (all : DefinitionMap) :
    p.expandedFrom ((id, base) :: rest) all =
      p.expandedFrom rest (new.foldl (fun all d => all.insert d.id d) all) := by
  rw [expandedFrom, h]

theorem expandedFrom_cons_of_error {e : PluginError} (h : p.expansion id base = .error e)
    (rest : List (String × Definition)) (all : DefinitionMap) :
    p.expandedFrom ((id, base) :: rest) all = .error e := by
  rw [expandedFrom, h]

/-! When expansion fails. -/

theorem exists_expandedFrom_eq_ok_iff {found : List (String × Definition)} {all : DefinitionMap} :
    (∃ result, p.expandedFrom found all = .ok result) ↔
      ∀ f ∈ found, ∀ e, ¬p.CannotExpand f.1 f.2 e := by
  induction found generalizing all with
  | nil => simp [expandedFrom]
  | cons f rest ih =>
    rw [List.forall_mem_cons]
    cases hf : p.expansion f.1 f.2 with
    | ok new =>
      rw [expandedFrom_cons_of_ok hf, ih]
      simp [← expansion_eq_error_iff, hf]
    | error e =>
      rw [expandedFrom_cons_of_error hf]
      simp [← expansion_eq_error_iff, hf]

theorem expandedFrom_eq_error_iff {found : List (String × Definition)} {all : DefinitionMap}
    (hordered : Keyed.Ordered found) {e : PluginError} :
    p.expandedFrom found all = .error e ↔ p.CannotExpandFirst found e := by
  induction found generalizing all with
  | nil => simp [expandedFrom, CannotExpandFirst]
  | cons f rest ih =>
    obtain ⟨hfirst, hrest⟩ := List.pairwise_cons.1 hordered
    have hlater : ∀ g ∈ rest, f.1 < g.1 := fun g hg => hfirst g.1 (List.mem_map_of_mem hg)
    cases hf : p.expansion f.1 f.2 with
    | ok new =>
      have hnot : ∀ e', ¬p.CannotExpand f.1 f.2 e' := by
        simp [← expansion_eq_error_iff, hf]
      rw [expandedFrom_cons_of_ok hf, ih hrest]
      constructor
      · rintro ⟨id, base, hmem, he, hleast⟩
        exact ⟨id, base, List.mem_cons_of_mem _ hmem, he,
          List.forall_mem_cons.2 ⟨fun _ => hnot, hleast⟩⟩
      · rintro ⟨id, base, hmem, he, hleast⟩
        rcases List.mem_cons.1 hmem with rfl | hmem
        · exact absurd he (hnot e)
        · exact ⟨id, base, hmem, he, (List.forall_mem_cons.1 hleast).2⟩
    | error e' =>
      have he' := expansion_eq_error_iff.1 hf
      rw [expandedFrom_cons_of_error hf]
      constructor
      · intro h
        cases h
        refine ⟨f.1, f.2, List.mem_cons_self, he', ?_⟩
        refine List.forall_mem_cons.2 ⟨fun h => absurd h (String.lt_irrefl _), fun g hg h => ?_⟩
        exact absurd (String.lt_trans (hlater g hg) h) (String.lt_irrefl _)
      · rintro ⟨id, base, hmem, he, hleast⟩
        rcases List.mem_cons.1 hmem with rfl | hmem
        · exact congrArg Except.error (Except.error.inj (hf.symm.trans (expansion_cannotExpand he)))
        · exact absurd he' (hleast f List.mem_cons_self (hlater _ hmem) e')

/-! What one definition adds. -/

theorem get?_foldl_insert {new : List Definition}
    (hdistinct : new.Pairwise fun a b => a.id ≠ b.id) (all : DefinitionMap) (x : String)
    (d : Definition) :
    (new.foldl (fun all d => all.insert d.id d) all).get? x = some d ↔
      (d ∈ new ∧ d.id = x) ∨ ((∀ other ∈ new, other.id ≠ x) ∧ all.get? x = some d) := by
  induction new generalizing all with
  | nil => simp
  | cons first rest ih =>
    obtain ⟨hfirst, hrest⟩ := List.pairwise_cons.1 hdistinct
    rw [List.foldl_cons, ih hrest, KeyedMap.get?_insert, List.forall_mem_cons, List.mem_cons]
    by_cases hx : first.id = x
    · have hnone : ∀ other ∈ rest, other.id ≠ x := fun other hother h =>
        hfirst other hother (hx.trans h.symm)
      grind
    · grind

theorem derivative_eq (id : String) (base : Definition) (key : String) (made : Definition) :
    derivative id base key made = { made with
      id := id ++ ":" ++ key
      deriver := none
      provider := if made.provider = "" then base.provider else made.provider
      source := made.source.or base.source } := by
  unfold derivative
  cases made.source <;> rfl

theorem derived_id_inj {baseId a b : String} (h : baseId ++ ":" ++ a = baseId ++ ":" ++ b) : a = b :=
  (String.append_right_inj _).1 h

variable {x : String} {d : Definition}

theorem pairwise_expansion_id {new : List Definition} (h : p.expansion id base = .ok new) :
    new.Pairwise fun a b => a.id ≠ b.id := by
  rcases p.expansion_cases id base with hplain | ⟨derivatives, hderives⟩ | ⟨e, he⟩
  · cases h.symm.trans (expansion_plain hplain)
    exact List.pairwise_singleton _ _
  · cases h.symm.trans (expansion_derives hderives)
    have hordered := List.pairwise_map.1 derivatives.ordered
    refine List.pairwise_map.2 (hordered.imp fun hlt heq => ?_)
    exact String.lt_irrefl _ (derived_id_inj heq ▸ hlt)
  · cases h.symm.trans (expansion_cannotExpand he)

theorem mem_expansion_iff {new : List Definition} (h : p.expansion id base = .ok new)
    (hid : base.id = id) :
    d ∈ new ∧ d.id = x ↔ Plain [(id, base)] x d ∨ p.DerivedFrom [(id, base)] id x d := by
  rcases p.expansion_cases id base with hplain | ⟨derivatives, hderives⟩ | ⟨e, he⟩
  · cases h.symm.trans (expansion_plain hplain)
    have hnot : ¬p.DerivedFrom [(id, base)] id x d := by
      rintro ⟨_, _, _, _, hmem, ⟨name, _, hname, -⟩, -⟩
      cases List.mem_singleton.1 hmem
      cases hplain.symm.trans hname
    simp only [hnot, or_false, Plain, List.mem_singleton, Prod.mk.injEq]
    constructor
    · rintro ⟨rfl, rfl⟩
      exact ⟨⟨hid, rfl⟩, hplain⟩
    · rintro ⟨⟨rfl, rfl⟩, -⟩
      exact ⟨rfl, hid⟩
  · cases h.symm.trans (expansion_derives hderives)
    have hnot : ¬Plain [(id, base)] x d := by
      rintro ⟨hmem, hnone⟩
      cases List.mem_singleton.1 hmem
      obtain ⟨name, -, hname, -⟩ := hderives
      cases hnone.symm.trans hname
    simp only [hnot, false_or]
    constructor
    · rintro ⟨hmem, rfl⟩
      obtain ⟨⟨key, made⟩, hentry, rfl⟩ := List.mem_map.1 hmem
      exact ⟨base, derivatives, key, made, List.mem_singleton_self _, hderives,
        KeyedMap.mem_entries_iff.1 hentry, rfl, derivative_eq id base key made⟩
    · rintro ⟨_, other, key, made, hmem, hother, hget, rfl, rfl⟩
      cases List.mem_singleton.1 hmem
      obtain rfl := hderives.unique hother
      exact ⟨List.mem_map.2 ⟨(key, made), KeyedMap.mem_entries_iff.2 hget,
        derivative_eq id base key made⟩, rfl⟩
  · cases h.symm.trans (expansion_cannotExpand he)

/-! The definitions before one in id order, and that one. -/

section Concat

variable {found more : List (String × Definition)} {baseId : String}

theorem plain_append_iff : Plain (found ++ more) x d ↔ Plain found x d ∨ Plain more x d := by
  unfold Plain
  rw [List.mem_append, or_and_right]

theorem derivedFrom_append_iff :
    p.DerivedFrom (found ++ more) baseId x d ↔
      p.DerivedFrom found baseId x d ∨ p.DerivedFrom more baseId x d := by
  constructor
  · rintro ⟨base, derivatives, key, made, hmem, hrest⟩
    rcases List.mem_append.1 hmem with hmem | hmem
    · exact .inl ⟨base, derivatives, key, made, hmem, hrest⟩
    · exact .inr ⟨base, derivatives, key, made, hmem, hrest⟩
  · rintro (⟨base, derivatives, key, made, hmem, hrest⟩ | ⟨base, derivatives, key, made, hmem, hrest⟩)
    · exact ⟨base, derivatives, key, made, List.mem_append_left _ hmem, hrest⟩
    · exact ⟨base, derivatives, key, made, List.mem_append_right _ hmem, hrest⟩

theorem DerivedFrom.mem_keys (h : p.DerivedFrom found baseId x d) :
    baseId ∈ found.map Prod.fst := by
  obtain ⟨base, _, _, _, hmem, -⟩ := h
  exact List.mem_map_of_mem hmem

theorem DerivedFrom.exists_eq_append (h : p.DerivedFrom found baseId x d) :
    ∃ rest, rest ≠ "" ∧ x = baseId ++ rest := by
  obtain ⟨_, _, key, _, -, -, -, hx, -⟩ := h
  refine ⟨":" ++ key, by simp, ?_⟩
  rw [hx, String.append_assoc]

theorem DerivedFrom.lt (h : p.DerivedFrom found baseId x d) : baseId < x := by
  obtain ⟨rest, hrest, rfl⟩ := h.exists_eq_append
  exact Text.lt_append hrest

theorem DerivedFrom.length_lt {more : List (String × Definition)} {otherId : String}
    {other : Definition} (h : p.DerivedFrom found baseId x d)
    (hother : p.DerivedFrom more otherId x other) (hlt : baseId < otherId) :
    baseId.length < otherId.length := by
  obtain ⟨rest, -, hrest⟩ := h.exists_eq_append
  obtain ⟨rest', -, hrest'⟩ := hother.exists_eq_append
  exact Text.length_lt_of_lt (hrest.symm.trans hrest') hlt

theorem eq_of_plain_singleton (h : Plain [(id, base)] x d) : x = id := by
  cases List.mem_singleton.1 h.1
  rfl

theorem DerivedFrom.eq_of_singleton (h : p.DerivedFrom [(id, base)] baseId x d) : baseId = id := by
  simpa using h.mem_keys

theorem mostSpecific_concat_iff (hlast : ∀ f ∈ found, f.1 < id) :
    p.MostSpecific (found ++ [(id, base)]) x d ↔
      (Plain [(id, base)] x d ∨ p.DerivedFrom [(id, base)] id x d) ∨
        ((∀ other, ¬(Plain [(id, base)] x other ∨ p.DerivedFrom [(id, base)] id x other)) ∧
          p.MostSpecific found x d) := by
  have hkeys : ∀ {key}, key ∈ found.map Prod.fst → key < id := by
    intro key hkey
    obtain ⟨f, hf, rfl⟩ := List.mem_map.1 hkey
    exact hlast f hf
  have hplain : ∀ other, Plain found x other → x < id := fun other h =>
    hkeys (List.mem_map_of_mem h.1)
  simp only [MostSpecific, plain_append_iff, derivedFrom_append_iff]
  constructor
  · rintro ((h | h) | ⟨hnone, baseId, hbase, hlongest⟩)
    · refine .inr ⟨?_, .inl h⟩
      rintro other (hother | hother)
      · exact String.lt_irrefl id (eq_of_plain_singleton hother ▸ hplain d h)
      · exact String.lt_irrefl id (String.lt_trans hother.lt (hplain d h))
    · exact .inl (.inl h)
    · rcases hbase with hbase | hbase
      · have hnew : ∀ other, ¬(Plain [(id, base)] x other ∨ p.DerivedFrom [(id, base)] id x other) := by
          rintro other (hother | hother)
          · exact hnone other (.inr hother)
          · -- the later base is the longer one
            have hshort := hbase.length_lt hother (hkeys hbase.mem_keys)
            exact absurd (hlongest id other (.inr hother)) (Nat.not_le.2 hshort)
        refine .inr ⟨hnew, .inr ⟨fun other h => hnone other (.inl h), baseId, hbase, ?_⟩⟩
        exact fun otherId other h => hlongest otherId other (.inl h)
      · exact .inl (.inr (hbase.eq_of_singleton ▸ hbase))
  · rintro ((h | h) | ⟨hnew, h | ⟨hnone, baseId, hbase, hlongest⟩⟩)
    · exact .inl (.inr h)
    · refine .inr ⟨?_, id, .inr h, ?_⟩
      · rintro other (hother | hother)
        · exact String.lt_irrefl id (String.lt_trans h.lt (hplain other hother))
        · exact String.lt_irrefl id ((eq_of_plain_singleton hother).symm ▸ h.lt)
      · rintro otherId other (hother | hother)
        · exact Nat.le_of_lt (hother.length_lt h (hkeys hother.mem_keys))
        · exact Nat.le_of_eq (congrArg String.length hother.eq_of_singleton)
    · exact .inl (.inl h)
    · refine .inr ⟨?_, baseId, .inl hbase, ?_⟩
      · rintro other (hother | hother)
        · exact hnone other hother
        · exact hnew other (.inl hother)
      · rintro otherId other (hother | hother)
        · exact hlongest otherId other hother
        · exact absurd (.inr (hother.eq_of_singleton ▸ hother)) (hnew other)

end Concat

theorem get?_expandedFrom {done rest : List (String × Definition)} {acc all : DefinitionMap}
    (hordered : Keyed.Ordered (done ++ rest)) (hids : ∀ f ∈ rest, f.2.id = f.1)
    (hacc : ∀ x d, acc.get? x = some d ↔ p.MostSpecific done x d)
    (h : p.expandedFrom rest acc = .ok all) (x : String) (d : Definition) :
    all.get? x = some d ↔ p.MostSpecific (done ++ rest) x d := by
  induction rest generalizing done acc with
  | nil =>
    cases h
    rw [List.append_nil]
    exact hacc x d
  | cons f rest ih =>
    obtain ⟨id, base⟩ := f
    obtain ⟨hid, hrest⟩ := List.forall_mem_cons.1 hids
    rw [List.append_cons] at hordered ⊢
    cases hnew : p.expansion id base with
    | error e =>
      rw [expandedFrom_cons_of_error hnew] at h
      cases h
    | ok new =>
      rw [expandedFrom_cons_of_ok hnew] at h
      refine ih hordered hrest (fun y e => ?_) h
      have hlast : ∀ f ∈ done, f.1 < id := by
        intro f hf
        have hdone : Keyed.Ordered (done ++ [(id, base)]) :=
          hordered.sublist ((List.sublist_append_left _ rest).map _)
        unfold Keyed.Ordered at hdone
        rw [List.map_append, List.pairwise_append] at hdone
        exact hdone.2.2 f.1 (List.mem_map_of_mem hf) id (List.mem_singleton.2 rfl)
      rw [get?_foldl_insert (pairwise_expansion_id hnew), mem_expansion_iff hnew hid, hacc,
        mostSpecific_concat_iff hlast]
      refine or_congr_right (and_congr_left fun _ => ?_)
      constructor
      · intro hnone other hother
        obtain ⟨hmem, hy⟩ := (mem_expansion_iff hnew hid).2 hother
        exact hnone other hmem hy
      · intro hnone other hmem hy
        exact hnone other ((mem_expansion_iff hnew hid).1 ⟨hmem, hy⟩)

theorem DerivedFrom.exists_longest {found : List (String × Definition)} {baseId : String}
    (h : p.DerivedFrom found baseId x d) :
    ∃ longestId longest, p.DerivedFrom found longestId x longest ∧
      ∀ otherId other, p.DerivedFrom found otherId x other → otherId.length ≤ longestId.length := by
  have hbounded : ∀ otherId other, p.DerivedFrom found otherId x other → otherId.length ≤ x.length := by
    intro otherId other hother
    obtain ⟨rest, -, rfl⟩ := hother.exists_eq_append
    rw [String.length_append]
    exact Nat.le_add_right _ _
  induction hroom : x.length - baseId.length using Nat.strongRecOn generalizing baseId d with
  | ind room ih =>
    by_cases hlonger : ∃ otherId other, p.DerivedFrom found otherId x other ∧
        baseId.length < otherId.length
    · obtain ⟨otherId, other, hother, hlt⟩ := hlonger
      have := hbounded otherId other hother
      exact ih (x.length - otherId.length) (by omega) hother rfl
    · simp only [not_exists, not_and, Nat.not_lt] at hlonger
      exact ⟨baseId, d, h, hlonger⟩

theorem exists_mostSpecific_iff {found : List (String × Definition)} :
    (∃ d, p.MostSpecific found x d) ↔
      (∃ d, Plain found x d) ∨ ∃ baseId d, p.DerivedFrom found baseId x d := by
  constructor
  · rintro ⟨d, h | ⟨-, baseId, h, -⟩⟩
    · exact .inl ⟨d, h⟩
    · exact .inr ⟨baseId, d, h⟩
  · intro h
    by_cases hplain : ∃ d, Plain found x d
    · obtain ⟨d, hd⟩ := hplain
      exact ⟨d, .inl hd⟩
    · obtain ⟨baseId, d, hderived⟩ := h.resolve_left hplain
      obtain ⟨longestId, longest, hlongest⟩ := hderived.exists_longest
      exact ⟨longest, .inr ⟨fun other hother => hplain ⟨other, hother⟩, longestId, hlongest⟩⟩

theorem MostSpecific.id_deriver {found : List (String × Definition)}
    (hids : ∀ f ∈ found, f.2.id = f.1) (h : p.MostSpecific found x d) :
    d.id = x ∧ d.deriver = none := by
  rcases h with ⟨hmem, hnone⟩ | ⟨-, baseId, ⟨_, _, _, _, -, -, -, -, rfl⟩, -⟩
  · exact ⟨hids _ hmem, hnone⟩
  · exact ⟨rfl, rfl⟩

theorem get?_expandedFrom_empty {discovered all : DefinitionMap} (hids : discovered.KeyedById)
    (h : p.expandedFrom discovered.entries .empty = .ok all) (x : String) (d : Definition) :
    all.get? x = some d ↔ p.MostSpecific discovered.entries x d := by
  have hordered : Keyed.Ordered ([] ++ discovered.entries) := discovered.ordered
  refine get?_expandedFrom hordered hids.entries (fun y e => ?_) h x d
  simp [MostSpecific, Plain, DerivedFrom]

/-- Expansion fails exactly when some definition names a deriver that is not registered or fails, and
with the error of the first such definition in id order. Otherwise the ids are those of definitions
without a deriver and of derivatives; under each stands what is most specific to it, with this very
id and without a deriver. -/
theorem expand_keeps_mostSpecific {σ : Type} (p : Processing) (discovered : DefinitionMap)
    (hids : discovered.KeyedById) (s : σ) :
    let result := (p.expand discovered : Action σ DefinitionMap).result s
    ((∃ e, result = .error e) ↔
      ∃ id base e, discovered.get? id = some base ∧ p.CannotExpand id base e) ∧
    (∀ e, result = .error e ↔ p.CannotExpandFirst discovered.entries e) ∧
    ∀ all, result = .ok all →
      (∀ id, (all.get? id).isSome ↔ (∃ d, Plain discovered.entries id d) ∨
        ∃ baseId d, p.DerivedFrom discovered.entries baseId id d) ∧
      (∀ id d, all.get? id = some d ↔ p.MostSpecific discovered.entries id d) ∧
      ∀ id d, all.get? id = some d → d.id = id ∧ d.deriver = none := by
  intro result
  have hresult : result = p.expandedFrom discovered.entries .empty :=
    congrArg Prod.fst (outcome_expandFrom p discovered.entries .empty s)
  rw [hresult]
  refine ⟨?_, fun e => expandedFrom_eq_error_iff discovered.ordered, fun all hall => ?_⟩
  · have hok : (∃ all, p.expandedFrom discovered.entries .empty = .ok all) ↔
        ∀ f ∈ discovered.entries, ∀ e, ¬p.CannotExpand f.1 f.2 e := exists_expandedFrom_eq_ok_iff
    cases hexpanded : p.expandedFrom discovered.entries .empty with
    | ok all =>
      have hnot := hok.1 ⟨all, hexpanded⟩
      constructor
      · rintro ⟨e, he⟩
        cases he
      · rintro ⟨id, base, e, hget, he⟩
        exact absurd he (hnot _ (KeyedMap.mem_entries_iff.2 hget) e)
    | error e =>
      obtain ⟨id, base, hmem, he, -⟩ := (expandedFrom_eq_error_iff discovered.ordered).1 hexpanded
      exact ⟨fun _ => ⟨id, base, e, KeyedMap.mem_entries_iff.1 hmem, he⟩, fun _ => ⟨e, rfl⟩⟩
  · have hget := get?_expandedFrom_empty hids hall
    refine ⟨fun id => ?_, hget, fun id d h => ((hget id d).1 h).id_deriver hids.entries⟩
    rw [Option.isSome_iff_exists, ← exists_mostSpecific_iff]
    exact exists_congr (hget id)

/-- One deriver, which makes `a:b:c` of two definitions. -/
def sampleDerivers : Processing where
  derivers := KeyedMap.empty.insert "menus" fun base =>
    .ok (KeyedMap.empty.insert (if base.id = "a" then "b:c" else "c") { id := "" })

def sampleBases : DefinitionMap where
  entries := [("a", { id := "a", provider := "core", deriver := some "menus" }),
    ("a:b", { id := "a:b", provider := "extra", deriver := some "menus" })]
  ordered := List.pairwise_pair.2 (by decide)

theorem keyedById_sampleBases : sampleBases.KeyedById := by
  intro id d h
  have hmem : (id, d) ∈ sampleBases.entries := KeyedMap.mem_entries_iff.2 h
  simp only [sampleBases, List.mem_cons, Prod.mk.injEq, List.not_mem_nil, or_false] at hmem
  rcases hmem with ⟨rfl, rfl⟩ | ⟨rfl, rfl⟩ <;> rfl

/-- Of the two derivatives with one id that of `a:b` stays. -/
theorem sampleBases_keeps_longest :
    sampleBases.KeyedById ∧ ∃ all,
      (sampleDerivers.expand sampleBases : Action Unit DefinitionMap).result () = .ok all ∧
        all.get? "a:b:c" = some { id := "a:b:c", provider := "extra" } := by
  refine ⟨keyedById_sampleBases, _, rfl, ?_⟩
  refine (((expand_keeps_mostSpecific sampleDerivers sampleBases keyedById_sampleBases ()).2.2 _
    rfl).2.1 _ _).2 (.inr ⟨?_, "a:b", ?_, ?_⟩)
  · rintro other ⟨hmem, hnone⟩
    simp [sampleBases] at hmem
  · refine ⟨_, _, "c", { id := "" }, List.mem_cons_of_mem _ List.mem_cons_self,
      ⟨"menus", _, rfl, rfl, rfl⟩, ?_, rfl, rfl⟩
    rfl
  · intro otherId other h
    have hkey := h.mem_keys
    simp only [sampleBases, List.map_cons, List.map_nil, List.mem_cons, List.not_mem_nil,
      or_false] at hkey
    rcases hkey with rfl | rfl <;> decide

end Processing

end PluginHost
