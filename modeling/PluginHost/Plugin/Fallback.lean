import PluginHost.Definition
import PluginHost.Settings

/-!
Policies that name a replacement for a missing plugin.
-/
namespace PluginHost

abbrev FallbackPolicy := String → Configuration → DefinitionMap → Option String

namespace FallbackPolicy

def designated (id : String) : FallbackPolicy := fun _ _ _ => some id

/-- The first other definition, of one provider if that is given. -/
def firstAvailable (provider : Option String) : FallbackPolicy := fun id _ all =>
  (all.values.find? fun d => d.id ≠ id && provider.all (d.provider = ·)).map Definition.id

def ofSettings (m : ManagerSettings) : Option FallbackPolicy :=
  match m.fallbackStrategy with
  | .none => none
  | .designated => m.fallbackPlugin.map designated
  | .firstAvailable => some (firstAvailable m.fallbackProvider)

end FallbackPolicy

end PluginHost
