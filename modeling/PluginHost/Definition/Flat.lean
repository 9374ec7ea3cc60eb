import PluginHost.Definition
import PluginHost.Fault

/-!
The flat object of a definition: its own fields and its metadata side by side. Metadata under the
name of a field hides that field, and a source that is no UTF-8 cannot be written.
-/
namespace PluginHost.Definition

def ownFields (d : Definition) (source : Option String) : KeyedMap Value :=
  let text (key : String) (value : Option String) (m : KeyedMap Value) : KeyedMap Value :=
    match value with
    | some s => m.insert key (.str s)
    | none => m
  (KeyedMap.empty.insert "id" (.str d.id)).insert "provider" (.str d.provider)
    |> text "class" d.className
    |> text "deriver" d.deriver
    |> text "source" source

def toFlat (d : Definition) : Except WriteFault Value := do
  let fields := d.ownFields (← d.source.mapM Path.written)
  pure (.ofMap (d.metadata.entries.foldl (fun m e => m.insert e.1 e.2) fields))

end PluginHost.Definition

namespace PluginHost

def Value.found : Value → Found
  | .null => .null
  | .bool b => .bool b
  | .int n => .signed n
  | .float x => .float x
  | .str s => .str s
  | .arr _ => .seq
  | .obj _ => .map

namespace Definition

/-- The fields read so far, and the keys that belong to none of them. -/
structure Draft where
  id : Option String := none
  provider : Option String := none
  className : Option String := none
  deriver : Option String := none
  source : Option String := none
  metadata : List (String × Value) := []

def textOf (expected : String) : Value → Except ShapeFault String
  | .str s => pure s
  | v => throw (.invalidType v.found expected)

def optionalTextOf (expected : String) : Value → Except ShapeFault (Option String)
  | .null => pure none
  | v => some <$> textOf expected v

def Draft.add (p : Draft) (key : String) (value : Value) : Except ShapeFault Draft :=
  match key with
  | "id" => do pure { p with id := some (← textOf "a string" value) }
  | "provider" => do pure { p with provider := some (← textOf "a string" value) }
  | "class" => do pure { p with className := ← optionalTextOf "a string" value }
  | "deriver" => do pure { p with deriver := ← optionalTextOf "a string" value }
  | "source" => do pure { p with source := ← optionalTextOf "path string" value }
  | _ => pure { p with metadata := p.metadata ++ [(key, value)] }

/-- Read the flat form. Keys are taken in order, so the first unfit one is reported. -/
def ofFlat : Value → Except ShapeFault Definition
  | .obj fields => do
    let p ← fields.foldlM (fun p e => p.add e.1 e.2) ({} : Draft)
    match p.id with
    | none => throw (.missingField "id")
    | some id =>
      pure { id, provider := p.provider.getD "", className := p.className, deriver := p.deriver
             source := p.source.map Path.ofString, metadata := KeyedMap.ofList p.metadata }
  | v => throw (.invalidType v.found "struct Definition")

end Definition

end PluginHost
