/-!
The formats in which definition files are written.
-/
namespace PluginHost

inductive Format
  | yaml
  | toml
  deriving DecidableEq, Inhabited

namespace Format

def all : List Format := [yaml, toml]

def name : Format → String
  | yaml => "yaml"
  | toml => "toml"

def defaultSuffix : Format → String
  | yaml => ".yml"
  | toml => ".toml"

/-- A format by its name, in any mixture of ASCII capitals and small letters. -/
def ofText? (text : String) : Option Format :=
  all.find? fun f => f.name.toList == text.toList.map Char.toLower

end Format

end PluginHost
