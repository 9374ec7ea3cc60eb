import PluginHost.Error
import PluginHost.Format
import PluginHost.Toml.Document
import PluginHost.Yaml.Document

/-!
The document that a definition file holds, if it holds one.
-/
namespace PluginHost.Format

open Text

def isIdleLine (line : List Char) : Bool :=
  match trim line with
  | [] => true
  | c :: rest => c == '#' || c :: rest == ['-', '-', '-']

/-- Lines end with line feeds here, whatever else ends one in YAML. -/
def isIdle (content : String) : Bool := (linesKept content.toList).all isIdleLine

/-- Read a document. A text without content, or whose content is null, holds none; in TOML that is
a text without keys. -/
def read (format : Format) (content : String) : Except DefinitionFault (Option Value) :=
  match format with
  | yaml =>
    if isIdle content then pure none
    else match Yaml.read content.toList with
      | none => throw .badYaml
      | some .null => pure none
      | some v => pure (some v)
  | toml =>
    match Toml.read content.toList with
    | none => throw .badToml
    | some [] => pure none
    | some entries =>
      match Toml.Item.toFields? entries with
      | none => throw .badToml
      | some fields => pure (some (.obj fields))

end PluginHost.Format
