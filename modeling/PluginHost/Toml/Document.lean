import PluginHost.Toml.Lexeme
import PluginHost.Toml.Number
import PluginHost.Toml.Value

/-!
A TOML text as one table. While the text is read, tables know how they came to be: a table that a
header only passed through may still get its own header, one made by a dotted key may not, and one
that is written as a value is closed.
-/
namespace PluginHost.Toml

open Text Text.Reader

/-- A table under construction. `implied` says that no header or value has defined it yet, `dotted`
that a dotted key made it. -/
inductive Node
  | leaf (item : Item)
  | table (implied dotted : Bool) (entries : List (String × Node))
  | tables (items : List Node)
  deriving Inhabited

namespace Node

mutual

def toItem : Node → Item
  | .leaf item => item
  | .table _ _ entries => .table (toEntries entries)
  | .tables items => .arr (toItems items)

def toItems : List Node → List Item
  | [] => []
  | node :: rest => node.toItem :: toItems rest

def toEntries : List (String × Node) → List (String × Item)
  | [] => []
  | (key, node) :: rest => (key, node.toItem) :: toEntries rest

end

def put (key : String) (node : Node) (entries : List (String × Node)) : List (String × Node) :=
  if (Keyed.get? key entries).isSome then
    entries.map fun e => if e.1 = key then (key, node) else e
  else entries ++ [(key, node)]

def emptyTable : Node := .table false false []

/-- Change the table at the end of a path. Tables that are missing on the way are made; of an array
of tables the last one is entered. A path of a dotted key enters no table that is already
defined. -/
def descend (node : Node) (dotted : Bool) (change : Node → Option Node) (path : List String) :
    Option Node :=
  match path, node with
  | [], node => change node
  | key :: path, .table implied wasDotted entries => do
    let child ← match (Keyed.get? key entries).getD (.table true dotted []) with
      | .leaf _ => none
      | .tables items => do
        let last ← items.getLast?
        let last ← last.descend dotted change path
        some (.tables (items.dropLast ++ [last]))
      | .table childImplied childDotted held =>
        if dotted && !childImplied then none
        else (Node.table childImplied childDotted held).descend dotted change path
    some (.table implied wasDotted (put key child entries))
  | _ :: _, _ => none

/-- Set a key for the first time. A table made by a dotted key is only extended by dotted keys, and
only such a table is. -/
def define (viaDots : Bool) (key : String) (item : Item) : Node → Option Node
  | .table implied dotted entries =>
    if dotted != viaDots || (Keyed.get? key entries).isSome then none
    else some (.table implied dotted (put key (.leaf item) entries))
  | _ => none

def assign (keys : List String) (item : Item) (node : Node) : Option Node := do
  let key ← keys.getLast?
  let path := keys.dropLast
  node.descend true (define (!path.isEmpty) key item) path

end Node

/-- The keys of a table written as a value, in the order of the text. Inside it, a key that passes
through a nested table must have made that table itself. -/
def inlineTable (pairs : List (List String × Item)) : Option Item := do
  let node ← pairs.foldlM (fun node pair => Node.assign pair.1 pair.2 node) Node.emptyTable
  some node.toItem

def boolean : Reader Bool :=
  orElse (do word "true".toList; pure true) (do word "false".toList; pure false)

def scalar : Reader Item :=
  orElse (do pure (.str (← string))) <|
  orElse (do pure (.moment (← moment .written))) <|
  orElse (do pure (.float (← decimalFloat))) <|
  orElse (do pure (.float (← specialFloat))) <|
  orElse (do pure (.int (← integer))) (do pure (.bool (← boolean)))

def arrayOf (value : Reader Item) : Reader Item := do
  char '['
  let item : Reader Item := do gap; let v ← value; gap; pure v
  let items ← maybe (separated1 item (char ','))
  if items.isSome then let _ ← maybe (char ',')
  gap
  char ']'
  pure (.arr (items.getD []))

def inlineTableOf (value : Reader Item) : Reader Item := do
  char '\x7b'
  let pair : Reader (List String × Item) := do
    let keys ← dottedKey
    char '='
    blanks
    let v ← value
    blanks
    pure (keys, v)
  let pairs ← maybe (separated1 pair (char ','))
  blanks
  char '\x7d'
  StateT.lift (inlineTable (pairs.getD []))

/-- A value in which collections nest at most `depth` deep. -/
def valueTo : Nat → Reader Item
  | 0 => scalar
  | depth + 1 => orElse scalar (orElse (arrayOf (valueTo depth)) (inlineTableOf (valueTo depth)))

def value : Reader Item := valueTo (depthLimit - 1)

inductive Statement
  | blank
  | pair (keys : List String) (item : Item)
  | header (path : List String)
  | arrayHeader (path : List String)

def pairStatement : Reader Statement := do
  let keys ← dottedKey
  char '='
  blanks
  let item ← value
  lineEnd
  pure (.pair keys item)

def headerStatement : Reader Statement := do
  char '['
  let path ← dottedKey
  char ']'
  lineEnd
  pure (.header path)

def arrayHeaderStatement : Reader Statement := do
  word ['[', '[']
  let path ← dottedKey
  word [']', ']']
  lineEnd
  pure (.arrayHeader path)

def statement : Reader Statement := do
  blanks
  match ← peek with
  | some '[' => orElse arrayHeaderStatement headerStatement
  | some '#' | some '\n' | some '\r' => do lineEnd; pure .blank
  | _ => pairStatement

namespace Node

/-- A header defines its table. One that headers only passed through keeps what it holds and moves
to the end. -/
def openTable (key : String) : Node → Option Node
  | .table implied dotted entries =>
    match Keyed.get? key entries with
    | none => some (.table implied dotted (put key emptyTable entries))
    | some (.table true false held) =>
      some (.table implied dotted (put key (.table false false held) (Keyed.erase key entries)))
    | some _ => none
  | _ => none

def pushTable (key : String) : Node → Option Node
  | .table implied dotted entries =>
    match Keyed.get? key entries with
    | none => some (.table implied dotted (put key (.tables [emptyTable]) entries))
    | some (.tables items) =>
      some (.table implied dotted (put key (.tables (items ++ [emptyTable])) entries))
    | some _ => none
  | _ => none

end Node

structure Draft where
  root : Node := .emptyTable
  path : List String := []

def Draft.add (d : Draft) : Statement → Option Draft
  | .blank => some d
  | .pair keys item => do
    let root ← d.root.descend false (Node.assign keys item) d.path
    some { d with root }
  | .header path => do
    let root ← d.root.descend false (Node.openTable (← path.getLast?)) path.dropLast
    some { root, path }
  | .arrayHeader path => do
    let root ← d.root.descend false (Node.pushTable (← path.getLast?)) path.dropLast
    some { root, path }

def statements : Nat → Reader (List Statement)
  | 0 => do blanks; atEnd; pure []
  | fuel + 1 => do
    blanks
    if ← ahead atEnd then pure []
    else
      let s ← statement
      let rest ← statements fuel
      pure (s :: rest)

/-- The table that a text writes. A byte order mark at the start does not count. -/
def read (content : List Char) : Option (List (String × Item)) := do
  let body := match content with
    | '\ufeff' :: rest => rest
    | cs => cs
  let found ← (statements body.length).run body
  let draft ← found.foldlM Draft.add {}
  match draft.root.toItem with
  | .table entries => some entries
  | _ => none

end PluginHost.Toml
