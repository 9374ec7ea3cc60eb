/-!
A place in a YAML text: what is left of it, and the index, line and column reached.
-/
namespace PluginHost.Yaml

structure Cursor where
  rest : List Char
  index : Nat := 0
  line : Nat := 0
  column : Nat := 0
  deriving Inhabited

def isBreak (c : Char) : Bool :=
  c == '\n' || c == '\r' || c == '\x85' || c == '\u2028' || c == '\u2029'

def isBlank (c : Char) : Bool := c == ' ' || c == '\t'

def isNameChar (c : Char) : Bool := c.isAlphanum || c == '_' || c == '-'

def isAllowed (c : Char) : Bool :=
  let n := c.toNat
  n == 0x09 || n == 0x0A || n == 0x0D || (0x20 ≤ n && n ≤ 0x7E) || n == 0x85 ||
    (0xA0 ≤ n && n ≤ 0xFFFD) || 0x10000 ≤ n

def endsLine : List Char → Bool
  | [] => true
  | c :: _ => isBreak c

def endsWord : List Char → Bool
  | [] => true
  | c :: _ => isBlank c || isBreak c

/-- Three dots or hyphens that stand alone: the mark of a document's start or end. -/
def startsWithMark (mark : Char) : List Char → Bool
  | a :: b :: c :: rest => a == mark && b == mark && c == mark && endsWord rest
  | _ => false

namespace Cursor

def head? (c : Cursor) : Option Char := c.rest.head?

def looksAt (c : Cursor) (ch : Char) : Bool := c.rest.head? == some ch

def skip (c : Cursor) : Cursor :=
  { c with rest := c.rest.tail, index := c.index + 1, column := c.column + 1 }

def advance (c : Cursor) (n : Nat) : Cursor :=
  { c with rest := c.rest.drop n, index := c.index + n, column := c.column + n }

def takeWhile (c : Cursor) (p : Char → Bool) : List Char × Cursor :=
  let taken := c.rest.takeWhile p
  (taken, c.advance taken.length)

def skipWhile (c : Cursor) (p : Char → Bool) : Cursor := (c.takeWhile p).2

/-- The line break at the cursor as it counts in a text, and the start of the next line. -/
def lineBreak? (c : Cursor) : Option (List Char × Cursor) :=
  let next (rest : List Char) (n : Nat) : Cursor :=
    { rest, index := c.index + n, line := c.line + 1, column := 0 }
  match c.rest with
  | '\r' :: '\n' :: rest => some (['\n'], next rest 2)
  | b :: rest =>
    if b == '\u2028' || b == '\u2029' then some ([b], next rest 1)
    else if isBreak b then some (['\n'], next rest 1)
    else none
  | [] => none

def atDocumentMark (c : Cursor) : Bool :=
  c.column == 0 && (startsWithMark '-' c.rest || startsWithMark '.' c.rest)

def skipComment (c : Cursor) : Cursor :=
  if c.looksAt '#' then c.skipWhile fun ch => !isBreak ch else c

/-- Blanks, perhaps a comment, and the line break; nothing else may be left on the line. -/
def finishLine (c : Cursor) : Option Cursor :=
  let c := (c.skipWhile isBlank).skipComment
  if c.rest.isEmpty then some c else c.lineBreak?.map Prod.snd

end Cursor

end PluginHost.Yaml
