import PluginHost.Text.Blank
import PluginHost.Text.Reader

/-!
Where a key stands in a settings text: the offset in bytes of the first line of a section that
starts with the key. A section runs from its header to the next line that starts with a bracket.
-/
namespace PluginHost.Settings

open Text

/-- Is this line the given header, up to blanks around it and a comment after it? -/
def isHeader (header line : List Char) : Bool :=
  match dropPrefix? header (trim line) with
  | some rest =>
    match trimStart rest with
    | [] => true
    | c :: _ => c == '#'
  | none => false

/-- For each header line, the bytes before the section and the lines from there on. -/
def sections (header : List Char) : Nat → List (List Char) → List (Nat × List (List Char))
  | _, [] => []
  | offset, line :: rest =>
    let offset := offset + byteLength line
    if isHeader header line then (offset, rest) :: sections header offset rest
    else sections header offset rest

def setsKey (key line : List Char) : Bool :=
  match dropPrefix? key line with
  | some (c :: _) => c == ' ' || c == '=' || c == '\t'
  | _ => false

def keyInSection (key : List Char) : Nat → List (List Char) → Option Nat
  | _, [] => none
  | offset, line :: rest =>
    let body := trimStart line
    if body.head? == some '[' then none
    else if setsKey key body then some (offset + byteLength line - byteLength body)
    else keyInSection key (offset + byteLength line) rest

/-- A path that ends in an index after at least one key selects one table of an array. -/
def splitIndex (path : List String) : List String × Option Nat :=
  match path.dropLast, path.getLast? with
  | [], _ => (path, none)
  | keys, some last =>
    match wordNumber? last.toList with
    | some n => (keys, some n)
    | none => (path, none)
  | _, none => (path, none)

/-- The byte offset of `key` in the section that `path` names. The headers of an array of tables
are looked for first, then those of a table. -/
def keyOffset? (content : String) (path : List String) (key : String) : Option Nat :=
  let lines := linesKept content.toList
  let find (s : Nat × List (List Char)) : Option Nat := keyInSection key.toList s.1 s.2
  if path.isEmpty then find (0, lines)
  else
    let (keys, index) := splitIndex path
    let name := ".".intercalate keys
    let found := match sections ("[[" ++ name ++ "]]").toList 0 lines with
      | [] => sections ("[" ++ name ++ "]").toList 0 lines
      | arrays => arrays
    match index with
    | some n => found[n]?.bind find
    | none => found.findSome? find

end PluginHost.Settings
