import PluginHost.Pattern.Reading
import PluginHost.Settings
import PluginHost.Text.Reader

/-!
What settings must satisfy beyond their shape, and the list of everything that they violate.
-/
namespace PluginHost

inductive Violation
  | blankSuffix
  | blankIdKey
  | badExcludePattern (pattern : String) (fault : PatternFault)
  | blankProvider (index : Nat)
  | duplicateProvider (provider : String)
  | noPaths (index : Nat)
  | blankKeySuffix
  | fallbackPluginMissing
  | blankInstalled (index : Nat)
  | badLevel (level : String)
  deriving DecidableEq

def Violation.message : Violation → String
  | blankSuffix => "discovery.file_suffix must not be empty"
  | blankIdKey => "discovery.id_key must not be empty"
  | badExcludePattern pattern _ =>
    s!"discovery.exclude_pattern `{pattern}` is not a valid regular expression"
  | blankProvider index => s!"discovery.directories[{index}].provider must not be empty"
  | duplicateProvider provider =>
    s!"duplicate provider `{provider}` in [[discovery.directories]]; list all its paths in one entry"
  | noPaths index => s!"discovery.directories[{index}].paths must list at least one directory"
  | blankKeySuffix => "cache.key_suffix must not be empty when the cache is enabled"
  | fallbackPluginMissing =>
    "manager.fallback_plugin is required when fallback_strategy is `designated`"
  | blankInstalled index => s!"manager.installed_providers[{index}] must not be empty"
  | badLevel level => s!"logging.level `{level}` is not one of trace, debug, info, warn, error"

namespace Settings

open Text

/-- The names of the levels; the number of a level is its place here, from one. -/
def levels : List String := ["error", "warn", "info", "debug", "trace"]

/-- A level is named in any mixture of ASCII capitals and small letters, or given by its number. -/
def isLevel (text : String) : Bool :=
  match wordNumber? text.toList with
  | some n => 1 ≤ n && n ≤ levels.length
  | none => levels.any fun l => l.toList == text.toList.map Char.toLower

def listIf (violated : Bool) (v : Violation) : List Violation := if violated then [v] else []

def directoryViolations (seen : List String) (index : Nat) :
    List DirectorySettings → List Violation
  | [] => []
  | d :: rest =>
    (if isBlank d.provider then [.blankProvider index]
      else listIf (seen.contains d.provider) (.duplicateProvider d.provider)) ++
    listIf d.paths.isEmpty (.noPaths index) ++
    directoryViolations (d.provider :: seen) (index + 1) rest

def installedViolations (index : Nat) : List String → List Violation
  | [] => []
  | p :: rest => listIf (isBlank p) (.blankInstalled index) ++ installedViolations (index + 1) rest

def discoveryViolations (d : DiscoverySettings) : List Violation :=
  listIf (d.fileSuffix.any isBlank) .blankSuffix ++
  listIf (isBlank d.idKey) .blankIdKey ++
  (match d.excludePattern with
    | some p =>
      match Pattern.ofText p with
      | .error fault => [.badExcludePattern p fault]
      | .ok _ => []
    | none => []) ++
  directoryViolations [] 0 d.directories

def managerViolations (m : ManagerSettings) : List Violation :=
  listIf (m.fallbackStrategy == .designated && m.fallbackPlugin.all isBlank)
    .fallbackPluginMissing ++
  installedViolations 0 (m.installedProviders.getD [])

def violations (s : Settings) : List Violation :=
  discoveryViolations s.discovery ++
  listIf (s.cache.enabled && isBlank s.cache.keySuffix) .blankKeySuffix ++
  managerViolations s.manager ++
  listIf (!isLevel s.logging.level) (.badLevel s.logging.level)

end Settings

end PluginHost
