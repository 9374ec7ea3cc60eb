import PluginHost.Discovery.Processed
import PluginHost.Proofs.Action

/-!
Processing apart from its log and from the memo: what comes out of a map of discovered definitions,
and what a processed source answers, with and without a memo.
-/
namespace PluginHost

def Discovery.asked {σ : Type} (source : Discovery σ) : Nat → σ → σ
  | 0, s => s
  | n + 1, s => source.asked n (source.definitions.after s)

/-- From a state on, a source answers the same however often it is asked. -/
def Discovery.Steady {σ : Type} (source : Discovery σ) (s : σ) (all : DefinitionMap) : Prop :=
  ∀ n, source.definitions.result (source.asked n s) = .ok all

theorem Discovery.Steady.next {σ : Type} {source : Discovery σ} {s : σ} {all : DefinitionMap}
    (h : source.Steady s all) : source.Steady (source.definitions.after s) all :=
  fun n => h (n + 1)

theorem Discovery.Steady.outcome {σ : Type} {source : Discovery σ} {s : σ} {all : DefinitionMap}
    (h : source.Steady s all) :
    source.definitions.outcome s = (.ok all, source.definitions.after s) :=
  Prod.ext (h 0) rfl

namespace Processing

variable {σ : Type} (p : Processing)

/-- Expand definitions, each added to those before; of equal ids the last stays. -/
def expandedFrom : List (String × Definition) → DefinitionMap → Except PluginError DefinitionMap
  | [], all => .ok all
  | (id, base) :: rest, all =>
    match p.expansion id base with
    | .error e => .error e
    | .ok new => expandedFrom rest (new.foldl (fun all d => all.insert d.id d) all)

def finished (expanded : DefinitionMap) : DefinitionMap :=
  (p.alterations.foldl (fun all alter => alter all)
    (expanded.mapValues fun _ d => p.fillDefaults d)).filter fun _ d => p.isInstalled d

def processed (discovered : DefinitionMap) : Except PluginError DefinitionMap :=
  (p.expandedFrom discovered.entries .empty).map p.finished

theorem outcome_addDefinition (all : DefinitionMap) (d : Definition) (s : σ) :
    (addDefinition all d : Action σ DefinitionMap).outcome s = (.ok (all.insert d.id d), s) := by
  unfold addDefinition
  cases h : all.get? d.id <;> simp [Action.outcome_bind]

theorem outcome_addDefinitions (new : List Definition) (all : DefinitionMap) (s : σ) :
    (new.foldlM addDefinition all : Action σ DefinitionMap).outcome s =
      (.ok (new.foldl (fun all d => all.insert d.id d) all), s) := by
  induction new generalizing all with
  | nil => rfl
  | cons d rest ih =>
    rw [List.foldlM_cons, Action.outcome_bind_ok (outcome_addDefinition all d s), ih, List.foldl_cons]

theorem outcome_expandFrom (entries : List (String × Definition)) (all : DefinitionMap) (s : σ) :
    (p.expandFrom entries all : Action σ DefinitionMap).outcome s =
      (p.expandedFrom entries all, s) := by
  induction entries generalizing all with
  | nil => rfl
  | cons e rest ih =>
    obtain ⟨id, base⟩ := e
    unfold expandFrom expandedFrom
    rw [Action.outcome_bind, Action.outcome_ofExcept]
    cases p.expansion id base with
    | error e => rfl
    | ok new =>
      dsimp only
      rw [Action.outcome_bind_ok (outcome_addDefinitions new all s), ih]

theorem outcome_forM_log {α : Type} (items : List α) (log : α → Action σ Unit)
    (h : ∀ item s, (log item).outcome s = (.ok (), s)) (s : σ) :
    (items.forM log : Action σ Unit).outcome s = (.ok (), s) := by
  induction items with
  | nil => rfl
  | cons item rest ih =>
    change (log item >>= fun _ => rest.forM log : Action σ Unit).outcome s = _
    rw [Action.outcome_bind_ok (h item s), ih]

theorem outcome_dropUninstalled (all : DefinitionMap) (s : σ) :
    (p.dropUninstalled all : Action σ DefinitionMap).outcome s =
      (.ok (all.filter fun _ d => p.isInstalled d), s) := by
  unfold dropUninstalled
  rw [Action.outcome_bind_ok (outcome_forM_log _ _ _ s)]
  · rfl
  · intro item s
    dsimp only
    split <;> rfl

theorem outcome_process (discovered : DefinitionMap) (s : σ) :
    (p.process discovered : Action σ DefinitionMap).outcome s = (p.processed discovered, s) := by
  unfold process expand processed
  rw [Action.outcome_bind, outcome_expandFrom]
  cases p.expandedFrom discovered.entries .empty with
  | error e => rfl
  | ok expanded =>
    dsimp only
    rw [Action.outcome_bind_ok (outcome_dropUninstalled p _ s)]
    rfl

theorem outcome_fresh (source : Discovery σ) (s : Memoized σ) :
    (p.fresh source).outcome s =
      match source.definitions.outcome s.inner with
      | (.ok discovered, inner) => (p.processed discovered, { s with inner })
      | (.error e, inner) => (.error e, { s with inner }) := by
  unfold fresh onInner
  rw [Action.outcome_bind, Action.outcome_focus]
  rcases source.definitions.outcome s.inner with ⟨e | discovered, inner⟩
  · rfl
  · exact p.outcome_process discovered _

theorem outcome_definitions_of_memo (source : Discovery σ) {s : Memoized σ} {all : DefinitionMap}
    (hp : p.memoize = true) (hs : s.memo = some all) :
    (p.definitions source).outcome s = (.ok all, s) := by
  unfold definitions
  rw [hp]
  change Action.outcome (get >>= _) s = _
  rw [Action.outcome_bind_ok (Action.outcome_get s), hs]
  rfl

theorem outcome_definitions_of_fresh (source : Discovery σ) {s : Memoized σ}
    (hs : p.memoize = true → s.memo = none) :
    (p.definitions source).outcome s =
      match (p.fresh source).outcome s with
      | (.ok all, t) => (.ok all, if p.memoize then { t with memo := some all } else t)
      | (.error e, t) => (.error e, t) := by
  unfold definitions
  cases hp : p.memoize with
  | false => rcases h : (p.fresh source).outcome s with ⟨e | all, t⟩ <;> exact h
  | true =>
    change Action.outcome (get >>= _) s = _
    rw [Action.outcome_bind_ok (Action.outcome_get s), hs hp, Action.outcome_bind]
    rcases (p.fresh source).outcome s with ⟨e | all, t⟩ <;> rfl

/-- The processed definitions stand: they are remembered, or nothing is and they are made anew from
a source that does not change. -/
def Stands (source : Discovery σ) (s : Memoized σ) (all : DefinitionMap) : Prop :=
  (p.memoize = true ∧ s.memo = some all) ∨
    ((p.memoize = true → s.memo = none) ∧
      ∃ discovered, source.Steady s.inner discovered ∧ p.processed discovered = .ok all)

variable {p}

theorem Stands.step {source : Discovery σ} {s : Memoized σ} {all : DefinitionMap}
    (h : p.Stands source s all) :
    ∃ t, (p.definitions source).outcome s = (.ok all, t) ∧ p.Stands source t all := by
  rcases h with ⟨hp, hs⟩ | ⟨hs, discovered, hsteady, hprocessed⟩
  · exact ⟨s, outcome_definitions_of_memo p source hp hs, .inl ⟨hp, hs⟩⟩
  · rw [outcome_definitions_of_fresh p source hs, outcome_fresh, hsteady.outcome]
    dsimp only
    rw [hprocessed]
    refine ⟨_, rfl, ?_⟩
    cases hp : p.memoize with
    | true => exact .inl ⟨hp, rfl⟩
    | false =>
      refine .inr ⟨fun h => ?_, discovered, hsteady.next, hprocessed⟩
      rw [hp] at h
      cases h

theorem Stands.steady {source : Discovery σ} {s : Memoized σ} {all : DefinitionMap}
    (h : p.Stands source s all) : (p.discovery source).Steady s all := by
  intro n
  induction n generalizing s with
  | zero =>
    obtain ⟨t, ht, -⟩ := h.step
    exact congrArg Prod.fst ht
  | succ n ih =>
    obtain ⟨t, ht, hstands⟩ := h.step
    have hafter : (p.discovery source).definitions.after s = t := congrArg Prod.snd ht
    change (p.discovery source).definitions.result
      ((p.discovery source).asked n ((p.discovery source).definitions.after s)) = _
    rw [hafter]
    exact ih hstands

end Processing

end PluginHost
