import PluginHost.Discovery
import PluginHost.Text.Quoted

/-!
Plugin instances are built by constructors that are registered under class names.
-/
namespace PluginHost

abbrev Constructor (π : Type) := String → Configuration → Definition → Except PluginError π

abbrev ConstructorRegistry (π : Type) := KeyedMap (Constructor π)

/-- Register a constructor; one that was registered for the class before is replaced. -/
def ConstructorRegistry.register {π : Type} (registry : ConstructorRegistry π) (className : String)
    (construct : Constructor π) : Traced (ConstructorRegistry π) := do
  if registry.contains className then Traced.log (.constructorReplaced className)
  pure (registry.insert className construct)

def ConstructorRegistry.describe {π : Type} (registry : ConstructorRegistry π) : String :=
  let classes := ", ".intercalate (registry.keys.map Text.quoted)
  "ConstructorRegistry \x7b classes: [" ++ classes ++ "] \x7d"

structure Factory (σ π : Type) where
  source : Discovery σ
  constructors : ConstructorRegistry π

namespace Factory

variable {σ π : Type}

def build (f : Factory σ π) (id : String) (config : Configuration) (d : Definition) : Action σ π := do
  let className := d.implementation
  match f.constructors.get? className with
  | none => throw (.unknownImplementation id className)
  | some construct => do
    Action.log (.creating id className)
    construct id config d

def create (f : Factory σ π) (id : String) (config : Configuration) : Action σ π := do
  match ← f.source.definition id true with
  | some d => f.build id config d
  | none => throw (.notFound id)

end Factory

end PluginHost
