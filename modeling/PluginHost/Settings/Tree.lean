import PluginHost.Fault
import PluginHost.Path
import PluginHost.Toml.Value

/-!
Settings trees: what a layer of settings holds, and what several layers hold together once each is
laid over the one before it. Every part of a tree remembers the layer that it comes from.
-/
namespace PluginHost.Settings

inductive Origin
  | text
  | file (path : Path)
  | environment
  deriving DecidableEq

/-- A single character is a text for all but choices. -/
inductive Scalar
  | null
  | bool (b : Bool)
  | signed (n : Int)
  | unsigned (n : Nat)
  | float (x : Binary64)
  | str (s : String)
  | char (c : Char)

inductive Tree
  | scalar (origin : Option Origin) (value : Scalar)
  | list (origin : Option Origin) (items : List Tree)
  | table (origin : Option Origin) (entries : List (String × Tree))

instance : Inhabited Tree := ⟨.scalar none .null⟩

/-- The entries of a layer, in key order. -/
abbrev Layer := List (String × Tree)

namespace Tree

def found : Tree → Found
  | scalar _ .null => .null
  | scalar _ (.bool b) => .bool b
  | scalar _ (.signed n) => .signed n
  | scalar _ (.unsigned n) => .unsigned n
  | scalar _ (.float x) => .float x
  | scalar _ (.str s) => .str s
  | scalar _ (.char c) => .str (String.singleton c)
  | list _ _ => .seq
  | table _ _ => .map

def origin : Tree → Option Origin
  | scalar o _ => o
  | list o _ => o
  | table o _ => o

mutual

/-- Lay one tree over another: two tables are joined key by key, anything else is replaced. A joined
table counts as part of the upper layer. -/
def layOver : Tree → Tree → Tree
  | lower, .table o upper =>
    match lower with
    | .table _ entries => .table o (layEntries entries upper)
    | _ => .table o upper
  | _, upper => upper

def layEntries : Layer → Layer → Layer
  | entries, [] => entries
  | entries, (key, upper) :: rest =>
    let laid := match Keyed.get? key entries with
      | some lower => layOver lower upper
      | none => upper
    layEntries (Keyed.insert key laid entries) rest

end

mutual

def ofValue : Value → Tree
  | .null => .scalar none .null
  | .bool b => .scalar none (.bool b)
  | .int n => .scalar none (.signed n)
  | .float x => .scalar none (.float x)
  | .str s => .scalar none (.str s)
  | .arr items => .list none (ofValues items)
  | .obj fields => .table none (ofFields fields)

def ofValues : List Value → List Tree
  | [] => []
  | v :: rest => ofValue v :: ofValues rest

def ofFields : List (String × Value) → Layer
  | [] => []
  | (key, v) :: rest => (key, ofValue v) :: ofFields rest

end

/-- A table with this key stands for what the key holds; its other entries do not count. -/
def contentKey : String := "___figment_value_value"

/-- The mark of a layer that a table may not set: a text with such a table is refused. -/
def markKey : String := "___figment_value_id"

mutual

/-- A date or time becomes a table of its text. -/
def ofItem? (origin : Origin) : Toml.Item → Option Tree
  | .str s => some (.scalar origin (.str s))
  | .int n => some (.scalar origin (.signed n))
  | .float x => some (.scalar origin (.float x))
  | .bool b => some (.scalar origin (.bool b))
  | .moment text => some (.table origin [(Toml.momentKey, .scalar origin (.str text))])
  | .arr items => do pure (.list origin (← ofItems? origin items))
  | .table entries => do
    let held ← ofEntries? origin entries
    if (Keyed.get? markKey held).isSome then none
    else some ((Keyed.get? contentKey held).getD (.table origin held))

def ofItems? (origin : Origin) : List Toml.Item → Option (List Tree)
  | [] => some []
  | item :: rest => do pure ((← ofItem? origin item) :: (← ofItems? origin rest))

def ofEntries? (origin : Origin) : List (String × Toml.Item) → Option Layer
  | [] => some []
  | (key, item) :: rest => do
    let held ← ofItem? origin item
    pure (Keyed.insert key held (← ofEntries? origin rest))

end

end Tree

end PluginHost.Settings
