import PluginHost.Proofs.Plugin.Creation

/-!
Failures of a defined plugin's constructor. A manager knows a missing plugin by the kind of failure
alone. So what a constructor fails with reaches the caller whatever the policy, unless it reports some
plugin as missing, as one does that builds a part of its plugin through another manager.
-/
namespace PluginHost

variable {σ π : Type}

/-- The plugin is defined, and the constructor chosen for it fails. -/
def ConstructorRegistry.FailsFor (constructors : ConstructorRegistry π) (all : DefinitionMap)
    (id : String) (config : Configuration) (e : PluginError) : Prop :=
  ∃ d construct, all.get? id = some d ∧ constructors.get? d.implementation = some construct ∧
    construct id config d = .error e

theorem ConstructorRegistry.FailsFor.make_eq {constructors : ConstructorRegistry π}
    {all : DefinitionMap} {id : String} {config : Configuration} {e : PluginError}
    (h : constructors.FailsFor all id config e) : constructors.make all id config = .error e := by
  obtain ⟨d, construct, hd, hconstruct, he⟩ := h
  unfold make
  simp only [hd, hconstruct, he]

namespace PluginManager

variable {m : PluginManager σ π} {s t u : Memoized σ} {all again : DefinitionMap} {id : String}
  {config : Configuration} {e : PluginError}

theorem outcome_create_of_failsFor (hall : m.discovery.definitions.outcome s = (.ok all, t))
    (hfails : m.constructors.FailsFor all id config e)
    (h : m.fallback = none ∨ e.isNotFound = false) :
    (m.create id config).outcome s = (.error e, t) := by
  have hfirst : (m.factory.create id config).outcome s = (.error e, t) := by
    rw [outcome_factory_create_of_outcome hall, hfails.make_eq]
  unfold create
  cases hf : m.fallback with
  | none => exact hfirst
  | some policy =>
    have he : e.isNotFound = false := h.resolve_left (by simp [hf])
    dsimp only
    rw [Action.outcome_tryCatch, hfirst]
    dsimp only
    rw [he]
    rfl

/-- A constructor that reports a plugin as missing is taken for one whose own plugin is. -/
theorem result_create_of_reportsMissing {policy : FallbackPolicy} (hpolicy : m.fallback = some policy)
    (hall : m.discovery.definitions.outcome s = (.ok all, t))
    (hfails : m.constructors.FailsFor all id config e) (he : e.isNotFound = true)
    (hagain : m.discovery.definitions.outcome t = (.ok again, u)) :
    (m.create id config).result s =
      match policy id config again with
      | none => .error e
      | some fallback =>
        if fallback = id then .error (.fallbackExhausted id id e)
        else ((m.factory.create fallback config).result u).mapError
          (.fallbackExhausted id fallback) := by
  refine Eq.trans ?_ (result_recover_of_outcome hagain policy id config e)
  unfold create Action.result
  rw [hpolicy]
  dsimp only
  rw [Action.outcome_tryCatch, outcome_factory_create_of_outcome hall, hfails.make_eq]
  dsimp only
  rw [if_pos he]

/-- What comes of the failure of a defined plugin's constructor. One that reports nothing as missing
reaches the caller under every policy, none of which is asked. With the definitions still there, no
other failure does so: the policy is asked as for a plugin without a definition, and the caller gets
the failure only if it declines, else its replacement or what that fails with. -/
theorem failure_reaches_caller_iff (m : PluginManager σ π) {s t : Memoized σ} {all : DefinitionMap}
    {id : String} {config : Configuration} {e : PluginError}
    (hall : m.discovery.definitions.outcome s = (.ok all, t))
    (hfails : m.constructors.FailsFor all id config e) :
    (e.isNotFound = false → ∀ fallback,
      ({ m with fallback }.create id config).outcome s = (.error e, t)) ∧
    ∀ again u, m.discovery.definitions.outcome t = (.ok again, u) →
      ((∀ fallback, ({ m with fallback }.create id config).result s = .error e) ↔
        e.isNotFound = false) ∧
      (e.isNotFound = true → ∀ policy,
        ({ m with fallback := some policy }.create id config).result s =
          match policy id config again with
          | none => .error e
          | some fallback =>
            if fallback = id then .error (.fallbackExhausted id id e)
            else (({ m with fallback := none }.create fallback config).result u).mapError
              (.fallbackExhausted id fallback)) := by
  have hother : e.isNotFound = false → ∀ fallback,
      ({ m with fallback }.create id config).outcome s = (.error e, t) := fun he fallback =>
    outcome_create_of_failsFor (m := { m with fallback }) hall hfails (.inr he)
  refine ⟨hother, fun again u hagain => ?_⟩
  have hmissing := fun (he : e.isNotFound = true) policy =>
    result_create_of_reportsMissing (m := { m with fallback := some policy }) rfl hall hfails he hagain
  refine ⟨⟨fun h => ?_, fun he fallback => congrArg Prod.fst (hother he fallback)⟩, hmissing⟩
  rw [← Bool.not_eq_true]
  intro he
  -- a policy that answers with the id itself
  have hself := (hmissing he (.designated id)).symm.trans (h (some (.designated id)))
  cases e with
  | notFound missing => simp [FallbackPolicy.designated] at hself
  | _ => cases he

/-- Builds a page from a part that another manager is to make, and does not have. -/
def constructPage : Constructor SamplePlugin := fun _ config _ =>
  ({ sampleManager with fallback := none }.create "part" config).result ⟨sampleDefinitions, none⟩

def pageManager : PluginManager DefinitionMap SamplePlugin :=
  { sampleManager with
    constructors := sampleManager.constructors.insert "PagePlugin" constructPage }

def pageDefinitions : DefinitionMap :=
  sampleDefinitions.insert "page" { id := "page", className := some "PagePlugin" }

theorem outcome_pageDefinitions :
    pageManager.discovery.definitions.outcome ⟨pageDefinitions, none⟩ =
      (.ok pageDefinitions, ⟨pageDefinitions, none⟩) := by
  rfl

theorem failsFor_page :
    pageManager.constructors.FailsFor pageDefinitions "page" .empty (.notFound "part") := by
  refine ⟨{ id := "page", className := some "PagePlugin" }, constructPage, ?_, ?_, rfl⟩
  · simp [pageDefinitions]
  · simp [pageManager, Definition.implementation]

/-- The page is defined and its part is missing, and the caller gets a block. -/
theorem page_replaced_by_block :
    pageManager.discovery.definitions.outcome ⟨pageDefinitions, none⟩ =
        (.ok pageDefinitions, ⟨pageDefinitions, none⟩) ∧
      pageManager.constructors.FailsFor pageDefinitions "page" .empty (.notFound "part") ∧
      (({ pageManager with fallback := some (.designated "block") }.create "page" .empty).result
        ⟨pageDefinitions, none⟩).map SamplePlugin.id = .ok "block" := by
  refine ⟨outcome_pageDefinitions, failsFor_page, ?_⟩
  have hreplaced := ((failure_reaches_caller_iff pageManager outcome_pageDefinitions failsFor_page).2
    _ _ outcome_pageDefinitions).2 rfl (.designated "block")
  rw [hreplaced]
  rfl

/-- Not every failure of a defined plugin's constructor reaches the caller. -/
theorem not_every_failure_reaches_caller :
    ¬∀ (m : PluginManager DefinitionMap SamplePlugin) (s t : Memoized DefinitionMap)
      (all : DefinitionMap) (id : String) (config : Configuration) (e : PluginError),
      m.discovery.definitions.outcome s = (.ok all, t) →
        m.constructors.FailsFor all id config e → (m.create id config).result s = .error e := by
  intro h
  have hpage := h pageManager _ _ _ _ _ _ outcome_pageDefinitions failsFor_page
  rw [result_create_of_reportsMissing rfl outcome_pageDefinitions failsFor_page rfl
    outcome_pageDefinitions] at hpage
  cases hpage

end PluginManager

end PluginHost
