import PluginHost.Text.Reader
import PluginHost.Yaml.Cursor

/-!
The text of scalars: plain, quoted and block. Line breaks inside them are folded. What is read
character by character or line by line is bounded by the text itself: `bound` is at least as long as
the rest of the text.
-/
namespace PluginHost.Yaml

open Text (number isHexDigit scalar?)

structure Gap where
  blanks : List Char := []
  broken : Bool := false
  first : List Char := []
  further : List Char := []

namespace Gap

/-- One line feed becomes a space, and gives way to further breaks. -/
def text (g : Gap) : List Char :=
  if !g.broken then g.blanks
  else if g.first == ['\n'] then (if g.further.isEmpty then [' '] else g.further)
  else g.first ++ g.further

def addBreak (g : Gap) (text : List Char) : Gap :=
  if g.broken then { g with further := g.further ++ text }
  else { g with blanks := [], broken := true, first := text }

/-- Pass over white space. A tab may not stand below column `limit` at the start of a line. -/
def read (limit : Int) (bound : List Char) (g : Gap) (c : Cursor) : Option (Gap × Cursor) :=
  match bound with
  | [] => some (g, c)
  | _ :: fuel =>
    match c.head? with
    | none => some (g, c)
    | some ch =>
      if isBlank ch then
        if g.broken && c.column < limit && ch == '\t' then none
        else
          let g := if g.broken then g else { g with blanks := g.blanks ++ [ch] }
          read limit fuel g c.skip
      else match c.lineBreak? with
        | some (text, c) => read limit fuel (g.addBreak text) c
        | none => some (g, c)

end Gap

def isFlowIndicator (c : Char) : Bool :=
  c == ',' || c == '[' || c == ']' || c == '\x7b' || c == '\x7d'

/-- The characters of a plain scalar up to the next white space or the end of the scalar. Within
flow collections a colon may not touch an indicator. -/
def plainWord (inFlow : Bool) : List Char → Option (List Char)
  | [] => some []
  | ch :: rest =>
    if isBlank ch || isBreak ch then some []
    else if inFlow && ch == ':' && rest.head?.any (fun n => n == '?' || isFlowIndicator n) then none
    else if (ch == ':' && endsWord rest) || (inFlow && isFlowIndicator ch) then some []
    else (plainWord inFlow rest).map (ch :: ·)

/-- A plain scalar: words with white space between them. Lines below column `indent` do not belong
to it outside flow collections. The result says whether the scalar ended at the start of a line. -/
def plainScalar (inFlow : Bool) (indent : Int) (bound : List Char) (g : Gap) (c : Cursor) :
    Option (List Char × Bool × Cursor) :=
  match bound with
  | [] => some ([], g.broken, c)
  | _ :: fuel =>
    if c.atDocumentMark || c.looksAt '#' then some ([], g.broken, c)
    else do
      let word ← plainWord inFlow c.rest
      let c := c.advance word.length
      let broken := g.broken && word.isEmpty
      let text := if word.isEmpty then [] else g.text ++ word
      match c.head? with
      | none => some (text, broken, c)
      | some ch =>
        if !(isBlank ch || isBreak ch) then some (text, broken, c)
        else do
          let (g, c) ← Gap.read indent c.rest {} c
          if !inFlow && c.column < indent then some (text, g.broken, c)
          else do
            let (more, broken, c) ← plainScalar inFlow indent fuel g c
            some (text ++ more, broken, c)

def simpleEscape? : Char → Option Char
  | '0' => some '\x00'
  | 'a' => some '\x07'
  | 'b' => some '\x08'
  | 't' | '\t' => some '\t'
  | 'n' => some '\n'
  | 'v' => some '\x0b'
  | 'f' => some '\x0c'
  | 'r' => some '\r'
  | 'e' => some '\x1b'
  | ' ' => some ' '
  | '"' => some '"'
  | '/' => some '/'
  | '\\' => some '\\'
  | 'N' => some '\x85'
  | '_' => some '\xa0'
  | 'L' => some '\u2028'
  | 'P' => some '\u2029'
  | _ => none

def codeLength? : Char → Option Nat
  | 'x' => some 2
  | 'u' => some 4
  | 'U' => some 8
  | _ => none

def escape? : List Char → Option (Char × Nat)
  | [] => none
  | ch :: rest =>
    match codeLength? ch with
    | some n => do
      let digits := rest.take n
      if digits.length = n && digits.all isHexDigit then
        some (← scalar? (number 16 digits), n + 1)
      else none
    | none => (simpleEscape? ch).map (·, 1)

/-- Characters of a quoted scalar up to white space, the closing quote or an escaped line break;
the flag tells of the latter. -/
def quotedWord (quote : Char) (bound : List Char) (c : Cursor) :
    Option (List Char × Bool × Cursor) :=
  match bound with
  | [] => some ([], false, c)
  | _ :: fuel =>
    match c.rest with
    | [] => some ([], false, c)
    | ch :: rest =>
      if isBlank ch || isBreak ch then some ([], false, c)
      else if quote == '\'' && ch == '\'' && rest.head? == some '\'' then do
        let (more, broken, c) ← quotedWord quote fuel (c.advance 2)
        some ('\'' :: more, broken, c)
      else if ch == quote then some ([], false, c)
      else if quote == '"' && ch == '\\' then
        match c.skip.lineBreak? with
        | some (_, c) => some ([], true, c)
        | none => do
          let (escaped, length) ← escape? rest
          let (more, broken, c) ← quotedWord quote fuel (c.advance (length + 1))
          some (escaped :: more, broken, c)
      else do
        let (more, broken, c) ← quotedWord quote fuel c.skip
        some (ch :: more, broken, c)

def quotedScalar (quote : Char) (bound : List Char) (c : Cursor) : Option (List Char × Cursor) :=
  match bound with
  | [] => none
  | _ :: fuel =>
    if c.atDocumentMark || c.rest.isEmpty then none
    else do
      let (word, broken, c) ← quotedWord quote c.rest c
      if c.looksAt quote then some (word, c.skip)
      else do
        let (g, c) ← Gap.read 0 c.rest { broken } c
        let (more, c) ← quotedScalar quote fuel c
        some (word ++ g.text ++ more, c)

/-- What becomes of the line breaks at the end of a block scalar. -/
inductive Chomping
  | strip
  | clip
  | keep
  deriving DecidableEq

def Chomping.ofChar? : Char → Option Chomping
  | '+' => some .keep
  | '-' => some .strip
  | _ => none

def blockHeader (c : Cursor) : Option (Chomping × Option Nat × Cursor) :=
  let chomping (c : Cursor) : Option (Chomping × Cursor) :=
    (c.head?.bind Chomping.ofChar?).map (·, c.skip)
  let width (c : Cursor) : Option (Option Nat × Cursor) :=
    match c.head? with
    | some ch =>
      if !ch.isDigit then some (none, c)
      else if ch == '0' then none
      else some (some (ch.toNat - 48), c.skip)
    | none => some (none, c)
  match chomping c with
  | some (ch, c) => (width c).map fun (w, c) => (ch, w, c)
  | none => do
    let (w, c) ← width c
    match w, chomping c with
    | some w, some (ch, c) => some (ch, some w, c)
    | w, _ => some (.clip, w, c)

/-- Empty lines before a line of a block scalar, whose indentation is `indent`, or unknown if that
is zero. Gives the widest indentation seen and the breaks. -/
def blockBreaks (indent : Nat) (bound : List Char) (widest : Nat) (c : Cursor) :
    Option (Nat × List Char × Cursor) :=
  match bound with
  | [] => some (widest, [], c)
  | _ :: fuel =>
    let room := if indent = 0 then c.rest else c.rest.take (indent - c.column)
    let spaces := room.takeWhile (· == ' ')
    let c := c.advance spaces.length
    let widest := max widest c.column
    if (indent = 0 || c.column < indent) && c.looksAt '\t' then none
    else match c.lineBreak? with
      | none => some (widest, [], c)
      | some (text, c) => do
        let (widest, more, c) ← blockBreaks indent fuel widest c
        some (widest, text ++ more, c)

/-- What the last line break and the breaks after it leave at the end. -/
def Chomping.tail (chomping : Chomping) (lead further : List Char) : List Char :=
  match chomping with
  | strip => []
  | clip => lead
  | keep => lead ++ further

/-- The lines of a block scalar from the current one on. `lead` is the break before this line,
`further` the breaks of empty lines after that, `blank` whether the line before started with a
blank. In a folded scalar, lines that start with no blank are joined by spaces. -/
def blockLines (literal : Bool) (chomping : Chomping) (indent : Nat) (bound lead further : List Char)
    (blank : Bool) (c : Cursor) : Option (List Char × Cursor) :=
  match bound with
  | [] => some (chomping.tail lead further, c)
  | _ :: fuel =>
    if c.column ≠ indent || c.rest.isEmpty then some (chomping.tail lead further, c)
    else do
      let startsBlank := c.head?.any isBlank
      let between :=
        if !literal && lead == ['\n'] && !blank && !startsBlank then
          (if further.isEmpty then [' '] else further)
        else lead ++ further
      let (line, c) := c.takeWhile fun ch => !isBreak ch
      let (lead, c) := c.lineBreak?.getD ([], c)
      let (_, further, c) ← blockBreaks indent c.rest 0 c
      let (more, c) ← blockLines literal chomping indent fuel lead further startsBlank c
      some (between ++ line ++ more, c)

/-- A block scalar after its mark. `parent` is the indentation of the collection around it. -/
def blockScalar (literal : Bool) (parent : Int) (c : Cursor) : Option (List Char × Cursor) := do
  let (chomping, width, c) ← blockHeader c
  let c ← c.finishLine
  let given : Nat := match width with
    | some w => (if 0 ≤ parent then parent + w else w).toNat
    | none => 0
  let (widest, breaks, c) ← blockBreaks given c.rest 0 c
  let indent := if given = 0 then max (max widest (parent + 1).toNat) 1 else given
  blockLines literal chomping indent c.rest [] breaks false c

end PluginHost.Yaml
