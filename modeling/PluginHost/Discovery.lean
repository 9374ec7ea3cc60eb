import PluginHost.Definition
import PluginHost.Event

/-!
Sources of definitions. Every source answers with all of its definitions; looking up one of them
follows from that. A source may change its state `σ` when it is asked.
-/
namespace PluginHost

abbrev Step (σ : Type) := StateT σ Traced

/-- A computation that may fail, too. What it did to the state before it failed stays. -/
abbrev Action (σ : Type) := ExceptT PluginError (Step σ)

def Step.log {σ : Type} (event : Event) : Step σ Unit := StateT.lift (Traced.log event)

def Action.log {σ : Type} (event : Event) : Action σ Unit := ExceptT.lift (Step.log event)

def Action.ofTraced {σ α : Type} (t : Traced α) : Action σ α := ExceptT.lift (StateT.lift t)

def Action.focus {σ τ α : Type} (get : τ → σ) (set : σ → τ → τ) (a : Action σ α) : Action τ α :=
  fun t => do
    let (result, s) ← a (get t)
    pure (result, set s t)

/-- What a lookup answers: a missing id is an error only if that is asked for. -/
def found (definition : Option Definition) (id : String) (strict : Bool) :
    Except PluginError (Option Definition) :=
  match definition with
  | some d => pure (some d)
  | none => if strict then throw (.notFound id) else pure none

structure Discovery (σ : Type) where
  definitions : Action σ DefinitionMap
  definition : String → Bool → Action σ (Option Definition) := fun id strict => do
    let all ← definitions
    found (all.get? id) id strict
  has : String → Action σ Bool := fun id => do
    let d ← definition id false
    pure d.isSome

def Discovery.handle {σ : Type} (source : Discovery σ) : Discovery σ where
  definitions := source.definitions
  definition id strict := source.definition id strict
  has id := source.has id

end PluginHost
