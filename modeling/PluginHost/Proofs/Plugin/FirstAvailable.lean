import PluginHost.Proofs.Discovery.Settled
import PluginHost.Proofs.Plugin.Creation

/-!
Falling back to the first definition, perhaps of one provider alone. The policy names the id that the
definition holds, which is looked up again. It is found there, since processing puts each definition
under its own id, and it is never the id that was missing.
-/
namespace PluginHost

theorem KeyedMap.find?_entries_eq_some_iff {α : Type} {m : KeyedMap α} {p : String × α → Bool}
    {key : String} {value : α} :
    m.entries.find? p = some (key, value) ↔ m.get? key = some value ∧ p (key, value) = true ∧
      ∀ other held, m.get? other = some held → p (other, held) = true → key ≤ other := by
  have hfind : ∀ {entries : List (String × α)}, Keyed.Ordered entries → ∀ e,
      entries.find? p = some e → ∀ f ∈ entries, p f = true → e.1 ≤ f.1 := by
    intro entries hordered
    induction entries with
    | nil => simp
    | cons head rest ih =>
      obtain ⟨hhead, hrest⟩ := List.pairwise_cons.1 hordered
      intro e he f hf hpf
      rw [List.find?_cons] at he
      split at he
      · cases he
        rcases List.mem_cons.1 hf with rfl | hf
        · exact String.le_refl _
        · exact String.not_lt.1 (String.lt_asymm (hhead f.1 (List.mem_map_of_mem hf)))
      · next hnot =>
        rcases List.mem_cons.1 hf with rfl | hf
        · rw [hpf] at hnot
          cases hnot
        · exact ih hrest e he f hf hpf
  constructor
  · intro h
    refine ⟨mem_entries_iff.1 (List.mem_of_find?_eq_some h), List.find?_some h, ?_⟩
    exact fun other held hheld => hfind m.ordered _ h _ (mem_entries_iff.2 hheld)
  · rintro ⟨hget, hp, hleast⟩
    obtain ⟨⟨other, held⟩, hfound⟩ := Option.isSome_iff_exists.1
      (List.find?_isSome.2 ⟨_, mem_entries_iff.2 hget, hp⟩)
    have hheld := mem_entries_iff.1 (List.mem_of_find?_eq_some hfound)
    have hother : other = key := String.le_antisymm
      (hfind m.ordered _ hfound _ (mem_entries_iff.2 hget) hp)
      (hleast other held hheld (List.find?_some hfound))
    subst hother
    rw [hfound, Option.some.inj (hheld.symm.trans hget)]

namespace FallbackPolicy

def Eligible (provider : Option String) (d : Definition) : Prop :=
  ∀ name, provider = some name → d.provider = name

structure FirstEligible (provider : Option String) (all : DefinitionMap) (id : String)
    (d : Definition) : Prop where
  defined : all.get? id = some d
  eligible : Eligible provider d
  least : ∀ other held, all.get? other = some held → Eligible provider held → id ≤ other

variable {provider : Option String} {all : DefinitionMap} {id : String}

theorem eligible_iff {d : Definition} :
    provider.all (d.provider = ·) = true ↔ Eligible provider d := by
  unfold Eligible
  cases provider <;> simp

theorem firstAvailable_eq_map (hids : all.KeyedById) (hid : all.get? id = none)
    (config : Configuration) : firstAvailable provider id config all =
      (all.entries.find? fun e => provider.all (e.2.provider = ·)).map Prod.fst := by
  have hother : ∀ e ∈ all.entries, e.2.id = e.1 ∧ e.2.id ≠ id := by
    intro e he
    have hget : all.get? e.1 = some e.2 := KeyedMap.mem_entries_iff.1 he
    refine ⟨hids e.1 e.2 hget, ?_⟩
    rintro rfl
    rw [hids e.1 e.2 hget, hget] at hid
    cases hid
  unfold firstAvailable KeyedMap.values
  rw [List.find?_map, Option.map_map]
  generalize all.entries = entries at hother
  induction entries with
  | nil => rfl
  | cons e rest ih =>
    obtain ⟨⟨hkey, hne⟩, hrest⟩ := List.forall_mem_cons.1 hother
    rw [List.find?_cons, List.find?_cons]
    simp only [Function.comp_apply, hne, ne_eq, not_false_eq_true, decide_true, Bool.true_and]
    split
    · simp [hkey]
    · exact ih hrest

theorem find?_eligible_iff {fallback : String} {d : Definition} :
    (all.entries.find? fun e => provider.all (e.2.provider = ·)) = some (fallback, d) ↔
      FirstEligible provider all fallback d := by
  rw [KeyedMap.find?_entries_eq_some_iff]
  simp only [eligible_iff]
  exact ⟨fun ⟨hget, heligible, hleast⟩ => ⟨hget, heligible, hleast⟩,
    fun ⟨hget, heligible, hleast⟩ => ⟨hget, heligible, hleast⟩⟩

theorem exists_firstEligible (h : ∃ key d, all.get? key = some d ∧ Eligible provider d) :
    ∃ fallback d, FirstEligible provider all fallback d := by
  obtain ⟨key, d, hget, heligible⟩ := h
  have hfound : (all.entries.find? fun e => provider.all (e.2.provider = ·)).isSome :=
    List.find?_isSome.2 ⟨(key, d), KeyedMap.mem_entries_iff.2 hget, eligible_iff.2 heligible⟩
  obtain ⟨⟨fallback, first⟩, hfound⟩ := Option.isSome_iff_exists.1 hfound
  exact ⟨fallback, first, find?_eligible_iff.1 hfound⟩

theorem firstAvailable_of_firstEligible (hids : all.KeyedById) (hid : all.get? id = none)
    {fallback : String} {d : Definition} (h : FirstEligible provider all fallback d)
    (config : Configuration) : firstAvailable provider id config all = some fallback := by
  rw [firstAvailable_eq_map hids hid, find?_eligible_iff.2 h]
  rfl

theorem firstAvailable_of_none_eligible (hids : all.KeyedById) (hid : all.get? id = none)
    (h : ∀ key d, all.get? key = some d → ¬Eligible provider d) (config : Configuration) :
    firstAvailable provider id config all = none := by
  rw [firstAvailable_eq_map hids hid, Option.map_eq_none_iff, List.find?_eq_none]
  intro e he heligible
  exact h e.1 e.2 (KeyedMap.mem_entries_iff.1 he) (eligible_iff.1 heligible)

end FallbackPolicy

theorem Processing.keyedById_of_stands {σ : Type} {p : Processing} {source : Discovery σ}
    (halter : p.alterations = []) {inner : σ} {calls : List (Call σ)} {all : DefinitionMap}
    (h : p.Stands source (p.afterCalls source { inner } calls) all) : all.KeyedById := by
  rcases h with ⟨-, hmemo⟩ | ⟨-, discovered, -, hprocessed⟩
  · exact ((between_settled halter source inner calls).memo all hmemo).keyedById
  · exact (settled_of_processed halter hprocessed).keyedById

namespace ConstructorRegistry

variable {π : Type} {constructors : ConstructorRegistry π} {all : DefinitionMap} {id : String}
  {d : Definition}

theorem make_of_own_id (hd : all.get? id = some d) (hid : d.id = id) (config : Configuration) :
    let className := d.className.getD (baseId id)
    (constructors.get? className = none →
      constructors.make all id config = .error (.unknownImplementation id className)) ∧
    ∀ construct, constructors.get? className = some construct →
      constructors.make all id config = construct id config d := by
  have himplementation : d.implementation = d.className.getD (baseId id) := by
    rw [← hid]
    rfl
  rw [← himplementation]
  unfold make
  rw [hd]
  refine ⟨fun hclass => ?_, fun construct hclass => ?_⟩
  · dsimp only
    rw [hclass]
  · dsimp only
    rw [hclass]

theorem NeverMissing.cause_of_exhausted (hc : constructors.NeverMissing)
    (hd : all.get? id = some d) {config : Configuration} {missing requested fallback : String}
    {cause : PluginError}
    (h : (constructors.make all id config).mapError (PluginError.fallbackExhausted missing id) =
      .error (PluginError.fallbackExhausted requested fallback cause)) :
    requested = missing ∧ fallback = id ∧ cause.isNotFound = false := by
  cases hmake : constructors.make all id config with
  | ok plugin =>
    rw [hmake] at h
    cases h
  | error e =>
    rw [hmake] at h
    cases h
    exact ⟨rfl, rfl, hc.make_of_defined hd hmake⟩

end ConstructorRegistry

namespace PluginManager

open FallbackPolicy

variable {σ π : Type} {m : PluginManager σ π} {s : Memoized σ} {all : DefinitionMap}
  {provider : Option String} {id : String}

theorem result_create_of_firstAvailable (hfallback : m.fallback = some (.firstAvailable provider))
    (hs : m.discovery.Steady s all) (hids : all.KeyedById) (hid : all.get? id = none)
    {fallback : String} {d : Definition} (h : FirstEligible provider all fallback d)
    (config : Configuration) :
    (m.create id config).result s =
      (m.constructors.make all fallback config).mapError (.fallbackExhausted id fallback) := by
  have hne : fallback ≠ id := by
    rintro rfl
    cases h.defined.symm.trans hid
  rw [result_create_of_undefined hs hid, hfallback, Option.bind_some,
    firstAvailable_of_firstEligible hids hid h]
  exact if_neg hne

/-- What comes of an id without a definition where the fallback is the first definition, perhaps of
one provider alone, and nothing alters definitions. Without an eligible one the plugin is reported as
missing. Else the eligible definition with the least id is built with the caller's configuration, and
what that fails with is reported as its failure. So an id is never its own fallback, and no fallback
is missing. -/
theorem create_of_firstAvailable (m : PluginManager σ π) (provider : Option String)
    (hfallback : m.fallback = some (.firstAvailable provider))
    (halter : m.processing.alterations = []) (hc : m.constructors.NeverMissing) (inner : σ)
    (calls : List (Call σ)) (all : DefinitionMap)
    (hs : m.processing.Stands m.source (m.processing.afterCalls m.source { inner } calls) all)
    (id : String) (hid : all.get? id = none) (config : Configuration) :
    let result := (m.create id config).result (m.processing.afterCalls m.source { inner } calls)
    ((∀ key d, all.get? key = some d → ¬Eligible provider d) → result = .error (.notFound id)) ∧
    ((∃ key d, all.get? key = some d ∧ Eligible provider d) →
      ∃ fallback d, FirstEligible provider all fallback d ∧
        let className := d.className.getD (baseId fallback)
        (m.constructors.get? className = none → result =
          .error (.fallbackExhausted id fallback (.unknownImplementation fallback className))) ∧
        ∀ construct, m.constructors.get? className = some construct →
          (∀ plugin, construct fallback config d = .ok plugin → result = .ok plugin) ∧
          ∀ e, construct fallback config d = .error e →
            result = .error (.fallbackExhausted id fallback e)) ∧
    ∀ requested fallback cause, result = .error (.fallbackExhausted requested fallback cause) →
      requested ≠ fallback ∧ cause.isNotFound = false := by
  intro result
  have hids : all.KeyedById := Processing.keyedById_of_stands halter hs
  have hnone : (∀ key d, all.get? key = some d → ¬Eligible provider d) →
      result = .error (.notFound id) := by
    intro h
    refine (result_create_of_undefined hs.steady hid config).trans ?_
    rw [hfallback, Option.bind_some, firstAvailable_of_none_eligible hids hid h]
  have hfirst : ∀ {fallback d}, FirstEligible provider all fallback d → result =
      (m.constructors.make all fallback config).mapError (.fallbackExhausted id fallback) :=
    fun h => result_create_of_firstAvailable hfallback hs.steady hids hid h config
  refine ⟨hnone, fun h => ?_, fun requested fallback cause hresult => ?_⟩
  · obtain ⟨fallback, d, hd⟩ := exists_firstEligible h
    obtain ⟨hmissing, hmade⟩ := ConstructorRegistry.make_of_own_id hd.defined
      (hids fallback d hd.defined) config
    refine ⟨fallback, d, hd, fun hclass => ?_, fun construct hclass =>
      ⟨fun plugin hplugin => ?_, fun e he => ?_⟩⟩
    · rw [hfirst hd, hmissing hclass]
      rfl
    · rw [hfirst hd, hmade construct hclass, hplugin]
      rfl
    · rw [hfirst hd, hmade construct hclass, he]
      rfl
  · by_cases h : ∃ key d, all.get? key = some d ∧ Eligible provider d
    · obtain ⟨first, d, hd⟩ := exists_firstEligible h
      rw [hfirst hd] at hresult
      obtain ⟨rfl, rfl, hcause⟩ := hc.cause_of_exhausted hd.defined hresult
      refine ⟨?_, hcause⟩
      rintro rfl
      cases hid.symm.trans hd.defined
    · rw [hnone fun key d hget heligible => h ⟨key, d, hget, heligible⟩] at hresult
      cases hresult

/-- Falls back to the first plugin of the provider `core`. -/
def spareManager : PluginManager DefinitionMap SamplePlugin where
  source := Discovery.static
  processing := {}
  constructors := sampleManager.constructors
  fallback := some (.firstAvailable (some "core"))

def spareDefinitions : DefinitionMap :=
  ((KeyedMap.empty.insert "cover" { id := "cover", provider := "core" }).insert "alpha"
    { id := "alpha", provider := "extra", className := some "MockPlugin" }).insert "block"
      { id := "block", provider := "core", className := some "MockPlugin" }

theorem firstEligible_spareDefinitions {fallback : String} {d : Definition}
    (h : FirstEligible (some "core") spareDefinitions fallback d) :
    fallback = "block" ∧ d.className = some "MockPlugin" := by
  have hmem : (fallback, d) ∈ spareDefinitions.entries := KeyedMap.mem_entries_iff.2 h.defined
  have hleast : fallback ≤ "block" := h.least "block" _ rfl fun name hname => by
    cases hname
    rfl
  have heligible := h.eligible "core" rfl
  simp only [spareDefinitions, KeyedMap.insert, KeyedMap.empty, Keyed.insert, String.reduceEq,
    String.reduceLT, if_false, if_true, List.mem_cons, Prod.mk.injEq, List.not_mem_nil,
    or_false] at hmem
  rcases hmem with ⟨rfl, rfl⟩ | ⟨rfl, rfl⟩ | ⟨rfl, rfl⟩
  · exact absurd heligible (by decide)
  · exact ⟨rfl, rfl⟩
  · exact absurd hleast (by decide)

/-- `alpha` comes first, but is of another provider. -/
theorem spareManager_builds_block :
    spareManager.processing.Stands spareManager.source
        (spareManager.processing.afterCalls spareManager.source { inner := spareDefinitions }
          [.definitions]) spareDefinitions ∧
      spareManager.constructors.NeverMissing ∧ spareDefinitions.get? "gone" = none ∧
      ((spareManager.create "gone" .empty).result
        (spareManager.processing.afterCalls spareManager.source { inner := spareDefinitions }
          [.definitions])).map SamplePlugin.id = .ok "block" := by
  have hstands : spareManager.processing.Stands spareManager.source
      (spareManager.processing.afterCalls spareManager.source { inner := spareDefinitions }
        [.definitions]) spareDefinitions := .inl ⟨rfl, rfl⟩
  have hgone : spareDefinitions.get? "gone" = none := rfl
  refine ⟨hstands, sampleManager_neverMissing, hgone, ?_⟩
  obtain ⟨fallback, d, hfirst, -, hbuilt⟩ := (create_of_firstAvailable spareManager (some "core") rfl
    rfl sampleManager_neverMissing spareDefinitions [.definitions] spareDefinitions hstands "gone"
    hgone .empty).2.1 ⟨"block", _, rfl, fun name hname => by cases hname; rfl⟩
  obtain ⟨rfl, hclass⟩ := firstEligible_spareDefinitions hfirst
  rw [hclass] at hbuilt
  rw [(hbuilt SamplePlugin.construct rfl).1 _ rfl]
  rfl

end PluginManager

end PluginHost
