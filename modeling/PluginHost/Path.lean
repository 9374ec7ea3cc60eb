import PluginHost.OsText
import PluginHost.Text.Blank

/-!
Paths and their components. A path is kept as written; two paths name the same place in the same way
when their components agree, whatever the slashes between them.
-/
namespace PluginHost

inductive Component
  | root
  | here
  | parent
  | name (s : OsText)
  deriving DecidableEq

structure Path where
  raw : OsText
  deriving DecidableEq, Inhabited

namespace Path

def ofString (s : String) : Path := ⟨s⟩

/-- The path as it is shown, for which it need not be in UTF-8. -/
def text (p : Path) : String := p.raw.display

def utf8? (p : Path) : Option String := p.raw.utf8?

def slash : UInt8 := '/'.toUInt8

def isAbsolute (p : Path) : Bool := p.raw.bytes.head? = some slash

/-- The pieces between slashes, empty ones included. -/
def segments (p : Path) : List OsText := (Text.splitAll slash p.raw.bytes).map OsText.mk

/-- Empty segments and dots count for nothing, except a dot that starts a relative path. -/
def components (p : Path) : List Component :=
  let inner (s : OsText) : Option Component :=
    if s = "" || s = "." then none else if s = ".." then some .parent else some (.name s)
  if p.isAbsolute then .root :: p.segments.filterMap inner
  else if p.segments.head? = some (.ofString ".") then .here :: p.segments.tail.filterMap inner
  else p.segments.filterMap inner

def same (p q : Path) : Bool := p.components == q.components

/-- `p.join q` is `q` itself if that is absolute, else `q` below `p` with one slash between. -/
def join (p q : Path) : Path :=
  if q.isAbsolute then q
  else if p.raw.bytes = [] || p.raw.bytes.getLast? = some slash then ⟨p.raw ++ q.raw⟩
  else ⟨p.raw ++ "/" ++ q.raw⟩

def child (p : Path) (name : OsText) : Path := p.join ⟨name⟩

def componentText : Component → OsText
  | .root => "/"
  | .here => "."
  | .parent => ".."
  | .name s => s

/-- The way from a directory to a place, both given from the root: up from where they part, then
down. -/
def way : List Component → List Component → List Component
  | [], down => down
  | b :: up, [] => (b :: up).map fun _ => .parent
  | b :: up, c :: down =>
    if b = c then way up down else ((b :: up).map fun _ => .parent) ++ c :: down

/-- The path as seen from the directory `base`, unless that makes it no shorter. -/
def seenFrom (p base : Path) : String :=
  let steps := way base.components p.components
  if steps.length < p.components.length then
    (OsText.intercalate "/" (steps.map componentText)).display
  else p.text

end Path

end PluginHost
