import PluginHost.Discovery

/-!
Definitions of another source after processing: derivatives are expanded, missing metadata is filled
in, alterations are made and definitions of providers that are not installed are dropped. The result
is remembered until it is cleared.
-/
namespace PluginHost

abbrev Deriver := Definition → Except PluginError DefinitionMap

abbrev Alteration := DefinitionMap → DefinitionMap

def Alteration.change (id : String) (f : Definition → Definition) : Alteration := fun all =>
  all.mapValues fun key d => if key = id then f d else d

structure Processing where
  derivers : KeyedMap Deriver := .empty
  defaults : KeyedMap Value := .empty
  alterations : List Alteration := []
  installed : Option (List String) := none
  memoize : Bool := true

structure Memoized (σ : Type) where
  inner : σ
  memo : Option DefinitionMap := none

namespace Processing

variable {σ : Type}

def addDefinition (all : DefinitionMap) (d : Definition) : Action σ DefinitionMap := do
  match all.get? d.id with
  | some previous => Action.log (.overriddenByDerivative d.id previous.provider d.provider)
  | none => pure ()
  pure (all.insert d.id d)

/-- A derivative as it is added: below the base's id, without a deriver, and with the base's provider
and source where it has none. -/
def derivative (id : String) (base : Definition) (derivativeId : String) (d : Definition) :
    Definition :=
  { d with
    id := id ++ String.singleton derivativeSeparator ++ derivativeId
    deriver := none
    provider := if d.provider = "" then base.provider else d.provider
    source := d.source.orElse fun _ => base.source }

def expansion (p : Processing) (id : String) (base : Definition) :
    Except PluginError (List Definition) :=
  match base.deriver with
  | none => pure [base]
  | some name =>
    match p.derivers.get? name with
    | none => throw (.invalidDefinition base.source (.unregisteredDeriver id name))
    | some derive => do
      let derivatives ← derive base
      pure (derivatives.entries.map fun e => derivative id base e.1 e.2)

def expandFrom (p : Processing) :
    List (String × Definition) → DefinitionMap → Action σ DefinitionMap
  | [], all => pure all
  | (id, base) :: rest, all => do
    let new ← p.expansion id base
    p.expandFrom rest (← new.foldlM addDefinition all)

def expand (p : Processing) (discovered : DefinitionMap) : Action σ DefinitionMap :=
  p.expandFrom discovered.entries .empty

/-- Metadata that is there already stays. -/
def fillDefaults (p : Processing) (d : Definition) : Definition :=
  let fill (metadata : KeyedMap Value) (e : String × Value) : KeyedMap Value :=
    if metadata.contains e.1 then metadata else metadata.insert e.1 e.2
  { d with metadata := p.defaults.entries.foldl fill d.metadata }

def isInstalled (p : Processing) (d : Definition) : Bool :=
  match p.installed with
  | some providers => providers.contains d.provider
  | none => true

def dropUninstalled (p : Processing) (all : DefinitionMap) : Action σ DefinitionMap := do
  all.entries.forM fun (id, d) =>
    if p.isInstalled d then pure () else Action.log (.providerNotInstalled id d.provider)
  pure (all.filter fun _ d => p.isInstalled d)

def process (p : Processing) (discovered : DefinitionMap) : Action σ DefinitionMap := do
  let expanded ← p.expand discovered
  let filled := expanded.mapValues fun _ d => p.fillDefaults d
  let altered := p.alterations.foldl (fun all alter => alter all) filled
  let all ← p.dropUninstalled altered
  Action.log (.processed all.size)
  pure all

def onInner {α : Type} (a : Action σ α) : Action (Memoized σ) α :=
  a.focus Memoized.inner fun inner m => { m with inner }

def fresh (p : Processing) (source : Discovery σ) : Action (Memoized σ) DefinitionMap := do
  p.process (← onInner source.definitions)

def definitions (p : Processing) (source : Discovery σ) : Action (Memoized σ) DefinitionMap := do
  if !p.memoize then p.fresh source
  else
    match (← get).memo with
    | some all => pure all
    | none => do
      let all ← p.fresh source
      modify fun m => { m with memo := some all }
      pure all

def discovery (p : Processing) (source : Discovery σ) : Discovery (Memoized σ) where
  definitions := p.definitions source

end Processing

def Memoized.clear {σ : Type} : Action (Memoized σ) Unit := do
  modify fun m => { m with memo := none }
  Action.log .memoCleared

end PluginHost
