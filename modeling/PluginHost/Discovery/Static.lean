import PluginHost.Discovery

/-!
Definitions that are set by hand. The state is the definitions themselves, and one of them is looked
up without asking for all.
-/
namespace PluginHost.Discovery

/-- Definitions by their ids; of equal ids the last wins. -/
def ofDefinitions (definitions : List Definition) : DefinitionMap :=
  KeyedMap.ofList (definitions.map fun d => (d.id, d))

def setDefinition (d : Definition) : Action DefinitionMap Unit :=
  modify fun all => all.insert d.id d

/-- Remove a definition; the answer is what stood under the id. -/
def deleteDefinition (id : String) : Action DefinitionMap (Option Definition) := do
  let all ← get
  set (all.erase id)
  pure (all.get? id)

def static : Discovery DefinitionMap where
  definitions := get
  definition id strict := do
    let all ← get
    found (all.get? id) id strict

end PluginHost.Discovery
