import PluginHost.DirectorySet
import PluginHost.FileTree.Change
import PluginHost.Format

/-!
Sample files of plugins, in a directory of its own for each provider.
-/
namespace PluginHost.FileTree

def samplePath (base : Path) (provider name : String) : Path := (base.child provider).child name

def sampleLine : Format → String → String → String
  | .yaml, key, value => s!"{key}: {value}\n"
  | .toml, key, value => s!"{key} = \"{value}\"\n"

def sampleContent (format : Format) (provider id : String) (className : Option String) : String :=
  sampleLine format "id" id ++ sampleLine format "label" s!"{id} from {provider}" ++
    (className.map (sampleLine format "class")).getD ""

def sampleDirectories (base : Path) (providers : List String) : DirectorySet :=
  .ofList (providers.map fun provider => (provider, base.child provider))

end PluginHost.FileTree
