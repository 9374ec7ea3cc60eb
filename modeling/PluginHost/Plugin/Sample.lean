import PluginHost.Plugin.Factory

/-!
A plugin that keeps its id, its definition and its configuration, and does nothing else.
-/
namespace PluginHost

structure SamplePlugin where
  id : String
  definition : Definition
  configuration : Configuration

namespace SamplePlugin

def defaultConfiguration : Configuration := KeyedMap.empty.insert "enabled" (.bool true)

def configure (p : SamplePlugin) (config : Configuration) : SamplePlugin :=
  { p with configuration := Configuration.merge defaultConfiguration config }

def construct : Constructor SamplePlugin := fun id config definition =>
  pure (configure { id, definition, configuration := .empty } config)

def refuse : Constructor SamplePlugin := fun id _ _ =>
  throw (.internal s!"mock plugin `{id}` refused to build")

def constructors : List (String × Constructor SamplePlugin) :=
  [("MockPlugin", construct), ("FallbackPlugin", construct), ("BrokenPlugin", refuse)]

end SamplePlugin

end PluginHost
