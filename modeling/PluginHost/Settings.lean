import PluginHost.DirectorySet
import PluginHost.Fault
import PluginHost.Format
import PluginHost.Value

/-!
The settings of a plugin host, with their defaults, and the document that writes them out in full.
-/
namespace PluginHost

inductive FallbackStrategy
  | none
  | designated
  | firstAvailable
  deriving DecidableEq, Inhabited

namespace FallbackStrategy

def all : List FallbackStrategy := [none, designated, firstAvailable]

def name : FallbackStrategy → String
  | none => "none"
  | designated => "designated"
  | firstAvailable => "first_available"

def ofText? (text : String) : Option FallbackStrategy := all.find? fun s => s.name = text

end FallbackStrategy

structure DirectorySettings where
  provider : String
  paths : List Path := []
  deriving DecidableEq

structure DiscoverySettings where
  format : Format := .yaml
  fileSuffix : Option String := none
  idKey : String := "id"
  excludePattern : Option String := none
  directories : List DirectorySettings := []
  deriving DecidableEq

structure CacheSettings where
  enabled : Bool := true
  keySuffix : String := "plugins"
  deriving DecidableEq

structure ManagerSettings where
  fallbackStrategy : FallbackStrategy := .none
  fallbackPlugin : Option String := none
  fallbackProvider : Option String := none
  installedProviders : Option (List String) := none
  deriving DecidableEq

structure LoggingSettings where
  level : String := "info"
  deriving DecidableEq

def LoggingSettings.filterAt (level : String) : String := s!"trellis={level},warn"

structure Settings where
  discovery : DiscoverySettings := {}
  cache : CacheSettings := {}
  manager : ManagerSettings := {}
  logging : LoggingSettings := {}
  deriving DecidableEq

namespace DiscoverySettings

def effectiveSuffix (d : DiscoverySettings) : String := d.fileSuffix.getD d.format.defaultSuffix

def directorySet (d : DiscoverySettings) : DirectorySet :=
  .ofList (d.directories.flatMap fun e => e.paths.map fun path => (e.provider, path))

end DiscoverySettings

namespace Settings

def object (fields : List (String × Value)) : Value := .ofMap (.ofList fields)

def optionalText : Option String → Value
  | some s => .str s
  | none => .null

def textList (texts : List String) : Value := .arr (texts.map .str)

def ofDirectory (d : DirectorySettings) : Except WriteFault Value := do
  let paths ← d.paths.mapM Path.written
  pure (object [("provider", .str d.provider), ("paths", textList paths)])

def ofDiscovery (d : DiscoverySettings) : Except WriteFault Value := do
  let directories ← d.directories.mapM ofDirectory
  pure (object
    [("format", .str d.format.name), ("file_suffix", optionalText d.fileSuffix),
     ("id_key", .str d.idKey), ("exclude_pattern", optionalText d.excludePattern),
     ("directories", .arr directories)])

def ofCache (c : CacheSettings) : Value :=
  object [("enabled", .bool c.enabled), ("key_suffix", .str c.keySuffix)]

def ofManager (m : ManagerSettings) : Value :=
  object
    [("fallback_strategy", .str m.fallbackStrategy.name),
     ("fallback_plugin", optionalText m.fallbackPlugin),
     ("fallback_provider", optionalText m.fallbackProvider),
     ("installed_providers", (m.installedProviders.map textList).getD .null)]

def ofLogging (l : LoggingSettings) : Value := object [("level", .str l.level)]

/-- The settings in full; what is not set is null. -/
def toValue (s : Settings) : Except WriteFault Value := do
  let discovery ← ofDiscovery s.discovery
  pure (object
    [("discovery", discovery), ("cache", ofCache s.cache),
     ("manager", ofManager s.manager), ("logging", ofLogging s.logging)])

end Settings

end PluginHost
