import PluginHost.Discovery.Directory
import PluginHost.Discovery.Processed
import PluginHost.Plugin.Factory
import PluginHost.Plugin.Fallback

/-!
A plugin manager: processed definitions, a factory over them and perhaps a fallback policy for ids
without a definition.
-/
namespace PluginHost

structure PluginManager (σ π : Type) where
  source : Discovery σ
  processing : Processing
  constructors : ConstructorRegistry π
  fallback : Option FallbackPolicy

namespace PluginManager

variable {σ π : Type}

def discovery (m : PluginManager σ π) : Discovery (Memoized σ) := m.processing.discovery m.source

/-- The manager itself as a source. Whether it has a definition follows from the lookup of that one,
and is not handed on. -/
def asSource (m : PluginManager σ π) : Discovery (Memoized σ) where
  definitions := m.discovery.definitions
  definition id strict := m.discovery.definition id strict

def factory (m : PluginManager σ π) : Factory (Memoized σ) π := ⟨m.discovery, m.constructors⟩

/-- Build the replacement. Whatever goes wrong with it is reported as its failure. -/
def createFallback (m : PluginManager σ π) (requested fallback : String) (config : Configuration) :
    Action (Memoized σ) π := do
  Action.log (.usingFallback requested fallback)
  tryCatch (m.factory.create fallback config) fun e =>
    throw (.fallbackExhausted requested fallback e)

def recover (m : PluginManager σ π) (policy : FallbackPolicy) (id : String) (config : Configuration)
    (missing : PluginError) : Action (Memoized σ) π := do
  let all ← m.discovery.definitions
  match policy id config all with
  | none => throw missing
  | some fallback =>
    if fallback = id then throw (.fallbackExhausted id fallback missing)
    else m.createFallback id fallback config

/-- Build an instance. Only where the plugin is missing is the policy asked, and only once. -/
def create (m : PluginManager σ π) (id : String) (config : Configuration) :
    Action (Memoized σ) π :=
  match m.fallback with
  | none => m.factory.create id config
  | some policy =>
    tryCatch (m.factory.create id config) fun e =>
      if e.isNotFound then m.recover policy id config e else throw e

def describe (m : PluginManager σ π) : String :=
  summary "PluginManager" m.constructors m.fallback.isSome
where
  summary (name : String) (constructors : ConstructorRegistry π) (fallback : Bool) : String :=
    name ++ " \x7b constructors: " ++ constructors.describe ++ ", fallback: " ++ toString fallback ++
      " \x7d"

end PluginManager

/-- What a manager is built from. Without a source of their own, its definitions are read from the
files of directories. -/
structure ManagerPlan (σ π : Type) where
  directories : DirectorySet := {}
  format : Format := .yaml
  fileSuffix : Option String := none
  parser : Option DocumentParser := none
  exclude : Option Exclusion := none
  idKey : String := "id"
  cache : Option DefinitionCache := none
  source : Option (Discovery σ) := none
  processing : Processing := {}
  constructors : ConstructorRegistry π := .empty
  fallback : Option FallbackPolicy := none

namespace ManagerPlan

variable {σ π : Type}

def describe (p : ManagerPlan σ π) : String :=
  PluginManager.describe.summary "PluginManagerBuilder" p.constructors p.fallback.isSome

def ofSettings (s : Settings) : Except PluginError (ManagerPlan σ π) := do
  let exclude ← match s.discovery.excludePattern with
    | none => pure none
    | some text =>
      match Exclusion.ofText text with
      | .ok exclude => pure (some exclude)
      | .error fault => throw (.settings (.badExcludePattern text fault))
  pure {
    directories := s.discovery.directorySet
    format := s.discovery.format
    fileSuffix := some s.discovery.effectiveSuffix
    idKey := s.discovery.idKey
    cache := some (.ofSettings s.cache.enabled s.cache.keySuffix)
    exclude
    processing := { installed := s.manager.installedProviders }
    fallback := FallbackPolicy.ofSettings s.manager }

def directoryDiscovery (p : ManagerPlan σ π) : DirectoryDiscovery :=
  let parser := p.parser.getD (.ofFormat p.format)
  { directories := p.directories
    scanner := { suffix := p.fileSuffix.getD parser.format.defaultSuffix, exclude := p.exclude }
    parser
    cache := p.cache.getD .null
    idKey := p.idKey }

/-- Build the manager; `place` says where in the state the files are. -/
def build (p : ManagerPlan σ π) (place : Discovery Workspace → Discovery σ) : PluginManager σ π where
  source := p.source.getD (place p.directoryDiscovery.discovery)
  processing := p.processing
  constructors := p.constructors
  fallback := p.fallback

end ManagerPlan

end PluginHost
