import PluginHost.Yaml.Node
import PluginHost.Yaml.ScalarValue

/-!
The value of a YAML document. Aliases are replaced by what their anchors hold; how deep collections
nest and how often aliases are followed is limited, so that no document grows without bound.
-/
namespace PluginHost.Yaml

namespace Node

/-- A tag that starts with an exclamation mark has no meaning here. -/
def isLocalTag (tag : List Char) : Bool :=
  tag.head? == some '!' && (tag.map fun ch => ch.toNat.toUInt8).toByteArray.validateUTF8

mutual

def flatten : Node → List Node
  | .sequence p items => .sequence p items :: flattenItems items
  | .mapping p entries => .mapping p entries :: flattenEntries entries
  | leaf => [leaf]

def flattenItems : List Node → List Node
  | [] => []
  | item :: rest => item.flatten ++ flattenItems rest

def flattenEntries : List (Node × Node) → List Node
  | [] => []
  | (key, value) :: rest => key.flatten ++ value.flatten ++ flattenEntries rest

end

def properties : Node → Properties
  | .alias _ => {}
  | .scalar p _ _ | .sequence p _ | .mapping p _ => p

def isCollection : Node → Bool
  | .sequence _ _ | .mapping _ _ => true
  | _ => false

abbrev AnchorTable := List (Nat × Node)

/-- Of two nodes with one number the later counts. -/
def anchorTable (nodes : List Node) : AnchorTable :=
  (nodes.filterMap fun n => n.properties.anchor.map (·, n)).reverse

/-- Counts how many aliases may still be followed. -/
abbrev Follow := StateT Nat Option

def target (table : AnchorTable) : Node → Follow Node
  | .alias anchor => do
    if (← get) = 0 then failure
    modify (· - 1)
    StateT.lift (table.lookup anchor)
  | node => pure node

/-- A key is a scalar, and always a text. -/
def keyText (table : AnchorTable) (node : Node) : Follow String := do
  match ← target table node with
  | .scalar _ text _ => pure (String.ofList text)
  | _ => failure

def scalarValue (p : Properties) (text : List Char) (plain : Bool) : Option Value :=
  match p.tag with
  | some tag =>
    if tag.head? == some '!' && plain then plainValue text else taggedValue tag text
  | none => if plain then plainValue text else some (.str (String.ofList text))

/-- The value of a node in which collections nest at most `depth` deep. Of equal keys the last
counts. -/
def valueTo (table : AnchorTable) : Nat → Node → Follow Value
  | depth, node => do
    let node ← target table node
    if node.properties.tag.any isLocalTag then failure
    match node, depth with
    | .scalar p text plain, _ => StateT.lift (scalarValue p text plain)
    | .sequence _ items, depth + 1 => do pure (.arr (← items.mapM (valueTo table depth)))
    | .mapping _ entries, depth + 1 => do
      let fields ← entries.mapM fun (key, value) => do
        let key ← keyText table key
        pure (key, ← valueTo table depth value)
      pure (.obj (Keyed.ofList fields))
    | _, _ => failure

def depthLimit : Nat := 128

def aliasesPerNode : Nat := 100

/-- Nodes, with one more for the end of each collection. -/
def eventCount (nodes : List Node) : Nat := nodes.length + (nodes.filter isCollection).length

def toValue? (root : Node) : Option Value :=
  let nodes := root.flatten
  (valueTo (anchorTable nodes) depthLimit root).run' (aliasesPerNode * eventCount nodes)

end Node

/-- The value of a text; an empty stream is null. -/
def read (content : List Char) : Option Value := do
  match ← Node.ofTokens? (← Token.ofText? content) with
  | some root => root.toValue?
  | none => some .null

end PluginHost.Yaml
