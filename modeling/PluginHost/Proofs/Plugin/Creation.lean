import PluginHost.Discovery.Static
import PluginHost.Keyed.Lemmas
import PluginHost.Plugin.Manager
import PluginHost.Plugin.Sample
import PluginHost.Proofs.Discovery.Processing

/-!
What creating an instance comes to while the definitions stand: for a defined plugin it is what the
constructor of its implementation returns; for any other id the fallback policy decides, and its
replacement is tried once.
-/
namespace PluginHost

variable {σ π : Type}

def ConstructorRegistry.make (constructors : ConstructorRegistry π) (all : DefinitionMap)
    (id : String) (config : Configuration) : Except PluginError π :=
  match all.get? id with
  | none => .error (.notFound id)
  | some d =>
    match constructors.get? d.implementation with
    | none => .error (.unknownImplementation id d.implementation)
    | some construct => construct id config d

def ConstructorRegistry.NeverMissing (constructors : ConstructorRegistry π) : Prop :=
  ∀ className construct, constructors.get? className = some construct →
    ∀ id config d e, construct id config d = .error e → e.isNotFound = false

theorem ConstructorRegistry.make_of_undefined (constructors : ConstructorRegistry π)
    {all : DefinitionMap} {id : String} (h : all.get? id = none) (config : Configuration) :
    constructors.make all id config = .error (.notFound id) := by
  unfold make
  rw [h]

theorem ConstructorRegistry.NeverMissing.make_of_defined {constructors : ConstructorRegistry π}
    (hc : constructors.NeverMissing) {all : DefinitionMap} {id : String} {d : Definition}
    (h : all.get? id = some d) {config : Configuration} {e : PluginError}
    (he : constructors.make all id config = .error e) : e.isNotFound = false := by
  unfold make at he
  rw [h] at he
  dsimp only at he
  split at he
  · cases he
    rfl
  · next construct hconstruct => exact hc _ construct hconstruct id config d e he

theorem Factory.outcome_build (f : Factory σ π) (id : String) (config : Configuration)
    (d : Definition) (s : σ) :
    (f.build id config d).outcome s =
      (match f.constructors.get? d.implementation with
        | none => .error (.unknownImplementation id d.implementation)
        | some construct => construct id config d, s) := by
  unfold build
  cases h : f.constructors.get? d.implementation with
  | none => simp [h]
  | some construct => simp [h, Action.outcome_bind]

namespace PluginManager

variable {m : PluginManager σ π} {s : Memoized σ} {all : DefinitionMap}

theorem outcome_definition_of_outcome {t : Memoized σ}
    (h : m.discovery.definitions.outcome s = (.ok all, t)) (id : String) (strict : Bool) :
    (m.discovery.definition id strict).outcome s = (found (all.get? id) id strict, t) := by
  change Action.outcome (m.discovery.definitions >>= fun all =>
    (liftM (found (all.get? id) id strict) : Action _ _)) s = _
  rw [Action.outcome_bind_ok h, Action.outcome_ofExcept]

theorem outcome_factory_create_of_outcome {t : Memoized σ}
    (h : m.discovery.definitions.outcome s = (.ok all, t)) (id : String) (config : Configuration) :
    (m.factory.create id config).outcome s = (m.constructors.make all id config, t) := by
  unfold Factory.create ConstructorRegistry.make
  rw [Action.outcome_bind, show m.factory.source = m.discovery from rfl,
    outcome_definition_of_outcome h]
  cases h : all.get? id with
  | none => rfl
  | some d =>
    change (m.factory.build id config d).outcome _ = _
    rw [Factory.outcome_build]
    rfl

theorem outcome_factory_create (hs : m.discovery.Steady s all) (id : String)
    (config : Configuration) :
    (m.factory.create id config).outcome s =
      (m.constructors.make all id config, m.discovery.definitions.after s) :=
  outcome_factory_create_of_outcome hs.outcome id config

theorem result_create_of_none (hf : m.fallback = none) (hs : m.discovery.Steady s all) (id : String)
    (config : Configuration) :
    (m.create id config).result s = m.constructors.make all id config := by
  unfold create Action.result
  rw [hf]
  dsimp only
  rw [outcome_factory_create hs]

theorem result_create_of_found {policy : FallbackPolicy} (hf : m.fallback = some policy)
    (hs : m.discovery.Steady s all) {id : String} {config : Configuration}
    (h : ∀ e, m.constructors.make all id config = .error e → e.isNotFound = false) :
    (m.create id config).result s = m.constructors.make all id config := by
  unfold create Action.result
  rw [hf]
  dsimp only
  rw [Action.outcome_tryCatch, outcome_factory_create hs]
  cases hmake : m.constructors.make all id config with
  | ok plugin => rfl
  | error e =>
    dsimp only
    rw [h e hmake]
    rfl

theorem result_create_of_defined (hs : m.discovery.Steady s all) (hc : m.constructors.NeverMissing)
    {id : String} {d : Definition} (hd : all.get? id = some d) (config : Configuration) :
    (m.create id config).result s =
      match m.constructors.get? d.implementation with
      | none => .error (.unknownImplementation id d.implementation)
      | some construct => construct id config d := by
  have hmake : (m.create id config).result s = m.constructors.make all id config := by
    cases hf : m.fallback with
    | none => exact result_create_of_none hf hs id config
    | some policy => exact result_create_of_found hf hs fun e he => hc.make_of_defined hd he
  rw [hmake]
  unfold ConstructorRegistry.make
  rw [hd]

theorem result_createFallback (m : PluginManager σ π) (s : Memoized σ) (requested fallback : String)
    (config : Configuration) :
    (m.createFallback requested fallback config).result s =
      ((m.factory.create fallback config).result s).mapError
        (.fallbackExhausted requested fallback) := by
  unfold createFallback Action.result
  rw [Action.outcome_bind_ok (Action.outcome_log _ s), Action.outcome_tryCatch]
  rcases (m.factory.create fallback config).outcome s with ⟨e | plugin, t⟩ <;> rfl

theorem result_recover_of_outcome {t : Memoized σ}
    (h : m.discovery.definitions.outcome s = (.ok all, t)) (policy : FallbackPolicy) (id : String)
    (config : Configuration) (missing : PluginError) :
    (m.recover policy id config missing).result s =
      match policy id config all with
      | none => .error missing
      | some fallback =>
        if fallback = id then .error (.fallbackExhausted id id missing)
        else ((m.factory.create fallback config).result t).mapError
          (.fallbackExhausted id fallback) := by
  unfold recover Action.result
  rw [Action.outcome_bind_ok h]
  cases policy id config all with
  | none => rfl
  | some fallback =>
    dsimp only
    split
    · next h => rw [h]; rfl
    · exact result_createFallback m t id fallback config

theorem result_recover (hs : m.discovery.Steady s all) (policy : FallbackPolicy) (id : String)
    (config : Configuration) (missing : PluginError) :
    (m.recover policy id config missing).result s =
      match policy id config all with
      | none => .error missing
      | some fallback =>
        if fallback = id then .error (.fallbackExhausted id id missing)
        else (m.constructors.make all fallback config).mapError (.fallbackExhausted id fallback) := by
  have hmake : ∀ fallback, (m.factory.create fallback config).result
      (m.discovery.definitions.after s) = m.constructors.make all fallback config := fun fallback =>
    congrArg Prod.fst (outcome_factory_create hs.next fallback config)
  rw [result_recover_of_outcome hs.outcome]
  simp only [hmake]

theorem result_create_of_undefined (hs : m.discovery.Steady s all) {id : String}
    (h : all.get? id = none) (config : Configuration) :
    (m.create id config).result s =
      match m.fallback.bind fun policy => policy id config all with
      | none => .error (.notFound id)
      | some fallback =>
        if fallback = id then .error (.fallbackExhausted id id (.notFound id))
        else (m.constructors.make all fallback config).mapError (.fallbackExhausted id fallback) := by
  have hmissing := m.constructors.make_of_undefined h config
  cases hf : m.fallback with
  | none => rw [result_create_of_none hf hs, hmissing]; rfl
  | some policy =>
    have hrecover : (m.create id config).result s =
        (m.recover policy id config (.notFound id)).result (m.discovery.definitions.after s) := by
      unfold create Action.result
      rw [hf]
      dsimp only
      rw [Action.outcome_tryCatch, outcome_factory_create hs, hmissing]
      rfl
    rw [hrecover, result_recover hs.next]
    rfl

/-- The complete outcome of creating an instance while the definitions stand at `all`. A defined
plugin is built by the constructor of its class, or else of its base id, whatever the policy. For
any other id the policy decides; its replacement succeeds exactly where a manager without a policy
succeeds with it, and fails with that manager's error inside. -/
theorem create_outcome_complete (m : PluginManager σ π) (s : Memoized σ) (all : DefinitionMap)
    (hs : m.processing.Stands m.source s all) (hc : m.constructors.NeverMissing) (id : String)
    (config : Configuration) :
    (∀ d, all.get? id = some d →
      let className := d.className.getD (baseId d.id)
      (m.constructors.get? className = none →
        (m.create id config).result s = .error (.unknownImplementation id className)) ∧
      ∀ construct, m.constructors.get? className = some construct →
        (m.create id config).result s = construct id config d) ∧
    (all.get? id = none →
      ((m.fallback.bind fun policy => policy id config all) = none →
        (m.create id config).result s = .error (.notFound id)) ∧
      ((m.fallback.bind fun policy => policy id config all) = some id →
        (m.create id config).result s = .error (.fallbackExhausted id id (.notFound id))) ∧
      ∀ fallback, (m.fallback.bind fun policy => policy id config all) = some fallback →
        fallback ≠ id →
        ∀ (τ : Type) (plain : PluginManager τ π) (t : Memoized τ), plain.fallback = none →
          plain.constructors = m.constructors → plain.processing.Stands plain.source t all →
          (∀ plugin, (m.create id config).result s = .ok plugin ↔
            (plain.create fallback config).result t = .ok plugin) ∧
          ∀ e, (plain.create fallback config).result t = .error e →
            (m.create id config).result s = .error (.fallbackExhausted id fallback e)) := by
  have hsteady : m.discovery.Steady s all := hs.steady
  constructor
  · intro d hd className
    rw [result_create_of_defined hsteady hc hd]
    change (m.constructors.get? d.implementation = none → _) ∧
      ∀ construct, m.constructors.get? d.implementation = some construct → _
    constructor
    · intro h
      rw [h]
      rfl
    · intro construct h
      rw [h]
  · intro hid
    rw [result_create_of_undefined hsteady hid]
    refine ⟨fun h => ?_, fun h => ?_, fun fallback h hne τ plain t hf hplain hstands => ?_⟩
    · rw [h]
    · rw [h]
      exact if_pos rfl
    · rw [h, result_create_of_none hf hstands.steady, hplain]
      dsimp only
      rw [if_neg hne]
      cases m.constructors.make all fallback config with
      | ok made => exact ⟨fun plugin => Iff.rfl, fun e he => by cases he⟩
      | error e =>
        constructor
        · intro plugin
          constructor <;> (intro hok; cases hok)
        · intro e' he
          cases he
          rfl

theorem steady_static (all : DefinitionMap) : Discovery.static.Steady all all := by
  intro n
  induction n with
  | zero => rfl
  | succ n ih => exact ih

/-- A manager of one plugin, which also replaces every plugin that is missing. -/
def sampleManager : PluginManager DefinitionMap SamplePlugin where
  source := Discovery.static
  processing := { memoize := false }
  constructors := (KeyedMap.empty.insert "MockPlugin" SamplePlugin.construct).insert "BrokenPlugin"
    SamplePlugin.refuse
  fallback := some (.designated "block")

def sampleDefinitions : DefinitionMap :=
  KeyedMap.empty.insert "block" { id := "block", className := some "MockPlugin" }

theorem sampleManager_neverMissing : sampleManager.constructors.NeverMissing := by
  intro className construct h id config d e he
  change ((KeyedMap.empty.insert "MockPlugin" SamplePlugin.construct).insert "BrokenPlugin"
    SamplePlugin.refuse).get? className = some construct at h
  rw [KeyedMap.get?_insert, KeyedMap.get?_insert] at h
  split at h
  · cases h
    cases he
    rfl
  · split at h
    · cases h
      cases he
    · cases h

/-- The hypotheses hold of the sample manager, and a missing plugin is replaced by the sample one. -/
theorem sampleManager_replaces_missing :
    sampleManager.processing.Stands sampleManager.source ⟨sampleDefinitions, none⟩ sampleDefinitions ∧
    sampleManager.constructors.NeverMissing ∧
    ∀ plugin, (sampleManager.create "gone" .empty).result ⟨sampleDefinitions, none⟩ = .ok plugin ↔
      ({ sampleManager with fallback := none }.create "block" .empty).result
        ⟨sampleDefinitions, none⟩ = .ok plugin := by
  have hstands : sampleManager.processing.Stands sampleManager.source ⟨sampleDefinitions, none⟩
      sampleDefinitions :=
    .inr ⟨fun _ => rfl, sampleDefinitions, steady_static sampleDefinitions, rfl⟩
  have hgone : sampleDefinitions.get? "gone" = none := by
    simp [sampleDefinitions]
  refine ⟨hstands, sampleManager_neverMissing, ?_⟩
  exact ((create_outcome_complete sampleManager ⟨sampleDefinitions, none⟩ sampleDefinitions hstands
    sampleManager_neverMissing "gone" .empty).2 hgone).2.2 "block" rfl (by decide) DefinitionMap
    { sampleManager with fallback := none } ⟨sampleDefinitions, none⟩ rfl rfl hstands |>.1

end PluginManager

end PluginHost
