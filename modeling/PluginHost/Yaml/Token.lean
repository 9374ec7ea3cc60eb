/-!
The tokens of a YAML text.
-/
namespace PluginHost.Yaml

inductive Token
  | streamEnd
  | documentStart
  | documentEnd
  | version (major minor : Nat)
  | tagShorthand (handle expansion : List Char)
  | blockSequenceStart
  | blockMappingStart
  | blockEnd
  | flowSequenceStart
  | flowSequenceEnd
  | flowMappingStart
  | flowMappingEnd
  | blockEntry
  | flowEntry
  | key
  | value
  | alias (name : List Char)
  | anchor (name : List Char)
  | tag (handle suffix : List Char)
  | scalar (text : List Char) (plain : Bool)
  deriving DecidableEq, Inhabited

end PluginHost.Yaml
