import PluginHost.Error
import PluginHost.Value

/-!
Definitions of plugins, their ids, and how a document becomes one. The document's own `provider` and
`source` never count: both come from the directory that held the file.
-/
namespace PluginHost

structure Definition where
  id : String
  provider : String := ""
  className : Option String := none
  deriver : Option String := none
  source : Option Path := none
  metadata : KeyedMap Value := .empty
  deriving Inhabited

abbrev DefinitionMap := KeyedMap Definition

def derivativeSeparator : Char := ':'

def baseId (id : String) : String :=
  match Text.splitFirst derivativeSeparator id.toList with
  | some (base, _) => String.ofList base
  | none => id

def derivativeId (id : String) : Option String :=
  (Text.splitFirst derivativeSeparator id.toList).map fun (_, derivative) =>
    String.ofList derivative

namespace Definition

def get? (d : Definition) (key : String) : Option Value := d.metadata.get? key

def withMetadata (key : String) (value : Value) (d : Definition) : Definition :=
  { d with metadata := d.metadata.insert key value }

def readId (idKey : String) : Option Value → Except DefinitionFault String
  | some (.str id) => if Text.isBlank id then throw (.blankId idKey) else pure id
  | some _ => throw (.notText idKey)
  | none => throw (.missingId idKey)

def readOptionalText (key : String) : Option Value → Except DefinitionFault (Option String)
  | none | some .null => pure none
  | some (.str s) => pure (some s)
  | some _ => throw (.notText key)

/-- Read a definition from a document. Each field that is read is taken out of the document, so an
id key that names one of the reserved fields leaves nothing for that field; what remains in the end
is the metadata. -/
def ofDocument (document : Value) (idKey provider : String) (source : Path) :
    Except DefinitionFault Definition :=
  match document with
  | .obj fields => do
    let fields := KeyedMap.ofList fields
    let id ← readId idKey (fields.get? idKey)
    let fields := fields.erase idKey
    let className ← readOptionalText "class" (fields.get? "class")
    let fields := fields.erase "class"
    let deriver ← readOptionalText "deriver" (fields.get? "deriver")
    let fields := fields.erase "deriver"
    let metadata := (fields.erase "provider").erase "source"
    pure { id, provider, className, deriver, source := some source, metadata }
  | _ => throw .notMapping

def implementation (d : Definition) : String := d.className.getD (baseId d.id)

end Definition

end PluginHost
