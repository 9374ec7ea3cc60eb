import PluginHost.Decimal.Reading
import PluginHost.Settings.Tree
import PluginHost.Toml.Lexeme

/-!
Settings in environment variables. The name of a variable, after the mark that all of them share,
says which key it sets; its value is read as a scalar, a list or a table where it can be.
-/
namespace PluginHost

/-- Variables with their values, in the order in which they were first set. -/
abbrev Environment := List (String × String)

namespace Environment

open Text Text.Reader Settings

def get? (env : Environment) (name : String) : Option String :=
  (env.find? (·.1 == name)).map Prod.snd

/-- A variable that is set again keeps its place. -/
def set (name value : String) : Environment → Environment
  | [] => [(name, value)]
  | (n, v) :: rest => if n = name then (name, value) :: rest else (n, v) :: set name value rest

def sectionNames : List String := ["discovery", "cache", "manager", "logging"]

/-- What follows the name of a section and an underscore, if anything does. -/
def restAfter? (sectionName : String) (key : List Char) : Option (List Char) :=
  match dropPrefix? (sectionName.toList ++ ['_']) key with
  | some [] => none
  | rest => rest

/-- The key in a section that a variable names: the underscore after the section becomes a dot. A
name that starts with no section stays as it is. -/
def keyPath (key : String) : String :=
  let inSection (s : String) : Option String :=
    (restAfter? s key.toList).map fun rest => s ++ "." ++ String.ofList rest
  (sectionNames.findSome? inSection).getD key

/-- What all names of variables with settings start with, in capitals or small letters. -/
def nameStart : List Char := "trellis_".toList

def keysOf? (name : String) : Option (List String) := do
  let name := trim name.toList
  let (start, rest) := name.splitAt nameStart.length
  if start.map Char.toLower ≠ nameStart then none
  let key := trim (keyPath (String.ofList rest)).toList
  let keys := splitAll '.' (key.map Char.toLower)
  if keys.any List.isEmpty then none else some (keys.map String.ofList)

def isBlank (c : Char) : Bool := c == ' ' || c == '\t' || c == '\n' || c == '\x0c' || c == '\r'

def blanks : Reader Unit := do let _ ← takeWhile isBlank

/-- Text that is neither quoted nor in brackets ends before one of these. -/
def isMark (c : Char) : Bool := [',', '\x7b', '\x7d', '[', ']'].contains c

def negative? : List Char → Option Int
  | '-' :: digits =>
    if digits.isEmpty || !digits.all Char.isDigit || signedLimit < number 10 digits then none
    else some (-(number 10 digits : Int))
  | _ => none

/-- A number if it can be read as one, else the text itself. -/
def plain (text : List Char) : Scalar :=
  match if text.contains '.' then Binary64.ofText? text else none with
  | some x => .float x
  | none =>
    match wordNumber? text, negative? text with
    | some n, _ => .unsigned n
    | none, some n => .signed n
    | none, none => .str (String.ofList text)

/-- Items between brackets, with commas between them and perhaps one after the last. -/
def bracketed {α : Type} (opening closing : Char) (item : Reader α) : Reader (List α) := do
  char opening
  if ← ahead (char closing) then
    char closing
    pure []
  else
    let first ← item
    let rest ← many do
      char ','
      if ← ahead (char closing) then failure else item
    let _ ← maybe (char ',')
    char closing
    pure (first :: rest)

def holding : Nat → List Char → List Char
  | bytes, c :: rest => if c.utf8Size ≤ bytes then c :: holding (bytes - c.utf8Size) rest else []
  | _, [] => []

/-- A text in double quotes, with the escapes of TOML. Before the first escape it keeps as many
bytes as there are characters. -/
def quotedText : Reader (List Char) := do
  char '"'
  let start ← takeWhile fun c => Toml.isPlain c && c != '"' && c != '\\'
  let rest ← many Toml.basicChar
  char '"'
  pure (if rest.isEmpty then start else holding start.length start ++ rest)

def isNameChar (c : Char) : Bool := c.isAlphanum || c == '_' || c == '-'

def pairOf (value : Reader Tree) : Reader (String × Tree) := do
  blanks
  let quoted ← ahead (char '"')
  let key ← if quoted then quotedText else takeWhile1 isNameChar
  blanks
  char '='
  let t ← value
  pure (String.ofList key, t)

/-- A value in which collections nest at most `depth` deep, and the blanks around it. -/
def valueTo : Nat → Reader Tree
  | 0 => failure
  | depth + 1 => do
    blanks
    let t ← orElse (do word "true".toList; pure (scalar (.bool true))) <|
      orElse (do word "false".toList; pure (scalar (.bool false))) <| do
      match ← peek with
      | some '\x7b' =>
        pure (.table origin (Keyed.ofList (← bracketed '\x7b' '\x7d' (pairOf (valueTo depth)))))
      | some '[' => pure (.list origin (← bracketed '[' ']' (valueTo depth)))
      | some '"' => pure (scalar (.str (String.ofList (← quotedText))))
      | some '\'' => do
        char '\''
        let c ← next
        char '\''
        pure (scalar (.char c))
      | _ => pure (scalar (plain (trim (← takeWhile fun c => !isMark c))))
    blanks
    pure t
where
  origin : Option Origin := some .environment
  scalar (s : Scalar) : Tree := .scalar origin s

/-- What a variable holds: a value if the whole of it is one, else a text. -/
def valueOf (text : String) : Tree :=
  ((valueTo (text.length + 1)).run text.toList).getD (.scalar (some .environment) (.str text))

def nest : List String → Tree → Tree
  | [], t => t
  | key :: rest, t => .table (some .environment) [(key, nest rest t)]

/-- One variable after the other, each laid over the ones before it. -/
def layer (env : Environment) : Layer :=
  env.foldl add []
where
  add (entries : Layer) (v : String × String) : Layer :=
    match keysOf? v.1 with
    | some (key :: rest) => Tree.layEntries entries [(key, nest rest (valueOf v.2))]
    | _ => entries

end Environment

end PluginHost
