import PluginHost.Discovery.Directory
import PluginHost.Discovery.Static
import PluginHost.Keyed.Lemmas
import PluginHost.Plugin.Manager
import PluginHost.Proofs.Discovery.Memoization

/-!
The three lookups of a source: all definitions, one of them, and whether there is one. Sources answer
them in different ways, some from their state, some by asking for all definitions and some by handing
them on; from one state they agree.
-/
namespace PluginHost

namespace Discovery

variable {σ : Type}

/-- From this state, the lookups of one definition say what the lookup of all says, fail as it fails
and leave the state that it leaves. -/
structure LookupsAgree (source : Discovery σ) (s : σ) : Prop where
  failing : ∀ e, source.definitions.result s = .error e → ∀ id,
    (∀ strict, (source.definition id strict).result s = .error e) ∧
      (source.has id).result s = .error e
  present : ∀ all, source.definitions.result s = .ok all → ∀ id d, all.get? id = some d →
    (∀ strict, (source.definition id strict).result s = .ok (some d)) ∧
      (source.has id).result s = .ok true
  missing : ∀ all, source.definitions.result s = .ok all → ∀ id, all.get? id = none →
    (source.definition id true).result s = .error (.notFound id) ∧
      (source.definition id false).result s = .ok none ∧ (source.has id).result s = .ok false
  leaves : ∀ id, (∀ strict, (source.definition id strict).after s = source.definitions.after s) ∧
    (source.has id).after s = source.definitions.after s

/-- The sources of the host, and handles around them. -/
inductive Provided : {σ : Type} → Discovery σ → Prop
  | directory (d : DirectoryDiscovery) : Provided d.discovery
  | static : Provided static
  | processed {σ : Type} (p : Processing) (source : Discovery σ) : Provided (p.discovery source)
  | manager {σ π : Type} (m : PluginManager σ π) : Provided m.discovery
  | managerAsSource {σ π : Type} (m : PluginManager σ π) : Provided m.asSource
  | handle {σ : Type} {source : Discovery σ} : Provided source → Provided source.handle

variable {source : Discovery σ} {s : σ}

/-- It is enough to know what the lookup of one definition comes to, and that the third lookup
follows from it. -/
theorem lookupsAgree_of_outcome
    (hdefinition : ∀ id strict, (source.definition id strict).outcome s =
      ((source.definitions.result s).bind fun all => found (all.get? id) id strict,
        source.definitions.after s))
    (hhas : ∀ id, (source.has id).outcome s =
      (((source.definition id false).result s).map Option.isSome,
        (source.definition id false).after s)) :
    source.LookupsAgree s := by
  have hresult : ∀ id strict, (source.definition id strict).result s =
      (source.definitions.result s).bind fun all => found (all.get? id) id strict :=
    fun id strict => congrArg Prod.fst (hdefinition id strict)
  have hafter : ∀ id strict, (source.definition id strict).after s = source.definitions.after s :=
    fun id strict => congrArg Prod.snd (hdefinition id strict)
  have hthere : ∀ id, (source.has id).result s =
      (source.definitions.result s).map fun all => all.contains id := fun id => by
    rw [← map_isSome_found, ← hresult]
    exact congrArg Prod.fst (hhas id)
  constructor
  case failing =>
    intro e he id
    refine ⟨fun strict => ?_, ?_⟩
    · rw [hresult, he]
      rfl
    · rw [hthere, he]
      rfl
  case present =>
    intro all hall id d hd
    refine ⟨fun strict => ?_, ?_⟩
    · rw [hresult, hall]
      change found (all.get? id) id strict = _
      rw [hd]
      rfl
    · rw [hthere, hall]
      change Except.ok (all.contains id) = _
      rw [KeyedMap.contains, hd]
      rfl
  case missing =>
    intro all hall id hnone
    refine ⟨?_, ?_, ?_⟩
    · rw [hresult, hall]
      change found (all.get? id) id true = _
      rw [hnone]
      rfl
    · rw [hresult, hall]
      change found (all.get? id) id false = _
      rw [hnone]
      rfl
    · rw [hthere, hall]
      change Except.ok (all.contains id) = _
      rw [KeyedMap.contains, hnone]
      rfl
  case leaves =>
    exact fun id => ⟨hafter id, (congrArg Prod.snd (hhas id)).trans (hafter id false)⟩

theorem lookupsAgree_derived (definitions : Action σ DefinitionMap) (s : σ) :
    ({ definitions } : Discovery σ).LookupsAgree s :=
  lookupsAgree_of_outcome (fun id strict => outcome_derived_definition definitions id strict s)
    fun id => outcome_derived_has definitions _ id s

theorem outcome_static_definition (id : String) (strict : Bool) (all : DefinitionMap) :
    (static.definition id strict).outcome all = (found (all.get? id) id strict, all) := by
  change Action.outcome (get >>= fun now : DefinitionMap =>
    (liftM (found (now.get? id) id strict) : Action _ _)) all = _
  rw [Action.outcome_bind_ok (Action.outcome_get all), Action.outcome_ofExcept]

theorem lookupsAgree_static (all : DefinitionMap) : static.LookupsAgree all :=
  lookupsAgree_of_outcome (fun id strict => outcome_static_definition id strict all)
    fun id => outcome_derived_has get static.definition id all

theorem LookupsAgree.handle (h : source.LookupsAgree s) : source.handle.LookupsAgree s :=
  ⟨h.failing, h.present, h.missing, h.leaves⟩

theorem lookupsAgree_asSource {π : Type} (m : PluginManager σ π) (s : Memoized σ) :
    m.asSource.LookupsAgree s :=
  lookupsAgree_of_outcome
    (fun id strict => outcome_derived_definition m.discovery.definitions id strict s)
    fun id => outcome_derived_has m.discovery.definitions m.discovery.definition id s

theorem Provided.lookupsAgree (h : source.Provided) (s : σ) : source.LookupsAgree s := by
  induction h with
  | directory d => exact lookupsAgree_derived d.definitions s
  | static => exact lookupsAgree_static s
  | processed p source => exact lookupsAgree_derived (p.definitions source) s
  | manager m => exact lookupsAgree_derived (m.processing.definitions m.source) s
  | managerAsSource m => exact lookupsAgree_asSource m s
  | handle _ ih => exact (ih s).handle

/-! Definitions that are set and deleted by hand. -/

inductive StaticChange
  | set (d : Definition)
  | delete (id : String)

namespace StaticChange

def id : StaticChange → String
  | .set d => d.id
  | .delete id => id

def perform : StaticChange → Action DefinitionMap Unit
  | .set d => setDefinition d
  | .delete id => discard (deleteDefinition id)

def leaves : StaticChange → Option Definition
  | .set d => some d
  | .delete _ => none

theorem get?_after_perform (change : StaticChange) (all : DefinitionMap) (id : String) :
    (change.perform.after all).get? id = if change.id = id then change.leaves else all.get? id := by
  cases change with
  | set d => exact KeyedMap.get?_insert all d.id id d
  | delete other => exact KeyedMap.get?_erase all other id

def SetLast (history : List StaticChange) (id : String) (d : Definition) : Prop :=
  ∃ before after, history = before ++ .set d :: after ∧ d.id = id ∧ ∀ change ∈ after, change.id ≠ id

variable {history : List StaticChange} {id : String} {d : Definition}

theorem setLast_concat_iff {change : StaticChange} :
    SetLast (history ++ [change]) id d ↔
      if change.id = id then change.leaves = some d else SetLast history id d := by
  constructor
  · rintro ⟨before, after, hhistory, hid, hafter⟩
    -- The change that counts is the new one, or the new one is among those after it.
    rcases Processing.concat_eq_append_cons_iff.1 hhistory with ⟨-, rfl, -⟩ | ⟨rest, rfl, hrest⟩
    · exact (if_pos hid).mpr rfl
    · rw [if_neg (hafter change (by simp))]
      exact ⟨before, rest, hrest, hid, fun c hc => hafter c (List.mem_append_left _ hc)⟩
  · intro h
    split at h
    · next hid =>
      cases change with
      | set other =>
        cases h
        exact ⟨history, [], rfl, hid, fun c hc => absurd hc List.not_mem_nil⟩
      | delete other => cases h
    · next hne =>
      obtain ⟨before, after, rfl, hid, hafter⟩ := h
      refine ⟨before, after ++ [change], by simp, hid, fun c hc => ?_⟩
      rcases List.mem_append.1 hc with hc | hc
      · exact hafter c hc
      · rw [List.mem_singleton.1 hc]
        exact hne

end StaticChange

def afterChanges (all : DefinitionMap) (changes : List StaticChange) : DefinitionMap :=
  changes.foldl (fun all change => change.perform.after all) all

theorem afterChanges_concat (all : DefinitionMap) (changes : List StaticChange)
    (change : StaticChange) :
    afterChanges all (changes ++ [change]) = change.perform.after (afterChanges all changes) :=
  List.foldl_append

theorem get?_afterChanges (history : List StaticChange) (id : String) (d : Definition) :
    (afterChanges .empty history).get? id = some d ↔ StaticChange.SetLast history id d := by
  induction history using List.reverseRecOn with
  | nil =>
    constructor
    · intro h
      cases h
    · rintro ⟨before, after, h, -⟩
      simp at h
  | append_singleton history change ih =>
    rw [afterChanges_concat, StaticChange.get?_after_perform, StaticChange.setLast_concat_iff]
    split
    · rfl
    · exact ih

theorem ofDefinitions_concat (initial : List Definition) (d : Definition) :
    ofDefinitions (initial ++ [d]) = (ofDefinitions initial).insert d.id d := by
  unfold ofDefinitions KeyedMap.ofList KeyedMap.insert Keyed.ofList
  simp only [List.map_append, List.map_cons, List.map_nil, List.foldl_append, List.foldl_cons,
    List.foldl_nil]

theorem ofDefinitions_eq_afterChanges (initial : List Definition) :
    ofDefinitions initial = afterChanges .empty (initial.map .set) := by
  induction initial using List.reverseRecOn with
  | nil => rfl
  | append_singleton initial d ih =>
    rw [ofDefinitions_concat, ih, List.map_append, List.map_singleton, afterChanges_concat]
    rfl

/-- From whatever state, the lookups of a source of the host, also behind handles, agree. A static
source that starts from a collection answers, after any changes, with the definitions that these set
last, the collection's own counting as set before them. -/
theorem lookups_tell_same_story :
    (∀ {σ : Type} (source : Discovery σ), source.Provided → ∀ s, source.LookupsAgree s) ∧
    ∀ (initial : List Definition) (changes : List StaticChange),
      let now := afterChanges (ofDefinitions initial) changes
      static.definitions.result now = .ok now ∧
        ∀ id d, now.get? id = some d ↔
          StaticChange.SetLast (initial.map .set ++ changes) id d := by
  refine ⟨fun source h => h.lookupsAgree, fun initial changes => ⟨rfl, fun id d => ?_⟩⟩
  rw [← get?_afterChanges, ofDefinitions_eq_afterChanges]
  unfold afterChanges
  rw [List.foldl_append]

def statedManager : PluginManager (Except PluginError DefinitionMap) Unit where
  source := Processing.statedSource
  processing := {}
  constructors := .empty
  fallback := none

/-- Behind a handle, a manager's lookups fail as its source does, and miss what is not there. -/
theorem statedManager_tells_same_story :
    statedManager.asSource.handle.Provided ∧
      (statedManager.asSource.handle.has "block").result { inner := .error Processing.sampleFailure } =
        .error Processing.sampleFailure ∧
      (statedManager.asSource.handle.has "block").result { inner := .ok Processing.sampleAnswer } =
        .ok true ∧
      (statedManager.asSource.handle.definition "gone" true).result
        { inner := .ok Processing.sampleAnswer } = .error (.notFound "gone") := by
  have hprovided : statedManager.asSource.handle.Provided :=
    .handle (.managerAsSource statedManager)
  have hagree := lookups_tell_same_story.1 _ hprovided
  refine ⟨hprovided, ((hagree _).failing _ rfl "block").2,
    ((hagree _).present Processing.sampleAnswer rfl "block" _ rfl).2,
    ((hagree _).missing Processing.sampleAnswer rfl "gone" ?_).1⟩
  simp [Processing.sampleAnswer]

end Discovery

end PluginHost
