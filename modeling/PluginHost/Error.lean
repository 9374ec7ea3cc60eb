import PluginHost.FileTree

/-!
What can go wrong while plugins are found and built. A failure is a cause; its wording is in the
`message` functions alone.
-/
namespace PluginHost

inductive DefinitionFault
  | notMapping
  | missingId (key : String)
  | blankId (key : String)
  | notText (key : String)
  | notUtf8
  | badYaml
  | badToml
  | unregisteredDeriver (id deriver : String)
  | other (text : String)
  deriving DecidableEq

inductive PatternFault
  | malformed
  | tooLarge
  deriving DecidableEq

inductive SettingsFault
  | badExcludePattern (pattern : String) (fault : PatternFault)
  | other (text : String)
  deriving DecidableEq

inductive PluginError
  | notFound (id : String)
  | invalidDefinition (path : Option Path) (fault : DefinitionFault)
  | fallbackExhausted (requested fallback : String) (cause : PluginError)
  | unknownImplementation (id className : String)
  | settings (fault : SettingsFault)
  | unreadable (path : Path) (fault : ReadFault)
  | internal (text : String)
  deriving DecidableEq

def DefinitionFault.message : DefinitionFault → String
  | notMapping => "definition must be a mapping"
  | missingId key => s!"missing `{key}`"
  | blankId key => s!"`{key}` must not be empty"
  | notText key => s!"`{key}` must be a string"
  | notUtf8 => "not valid UTF-8"
  | badYaml => "invalid YAML"
  | badToml => "invalid TOML"
  | unregisteredDeriver id deriver => s!"plugin `{id}` names unregistered deriver `{deriver}`"
  | other text => text

def ReadFault.message : ReadFault → String
  | noSuchFile => "No such file or directory (os error 2)"
  | denied => "Permission denied (os error 13)"
  | notDirectory => "Not a directory (os error 20)"
  | isDirectory => "Is a directory (os error 21)"
  | tooManyLinks => "Too many levels of symbolic links (os error 40)"
  | other text => text

def SettingsFault.message : SettingsFault → String
  | badExcludePattern pattern _ => s!"invalid exclude pattern `{pattern}`"
  | other text => text

namespace PluginError

def message : PluginError → String
  | notFound id => s!"plugin not found: {id}"
  | invalidDefinition (some path) fault => s!"invalid definition at {path.text}: {fault.message}"
  | invalidDefinition none fault => s!"invalid definition: {fault.message}"
  | fallbackExhausted requested fallback _ =>
    s!"fallback exhausted: plugin `{requested}` not found and fallback `{fallback}` is unresolvable"
  | unknownImplementation id className =>
    s!"no constructor registered for `{className}` (plugin `{id}`)"
  | settings fault => s!"configuration error: {fault.message}"
  | unreadable path fault => s!"i/o error at {path.text}: {fault.message}"
  | internal text => s!"internal error: {text}"

def isNotFound : PluginError → Bool
  | notFound _ => true
  | _ => false

end PluginError

end PluginHost
