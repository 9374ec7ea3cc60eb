import PluginHost.Error
import PluginHost.Pattern.Machine

/-!
Reading a pattern from its notation. What is no notation of a pattern is refused without a reason; a
pattern that repeats too much is refused as too large.
-/
namespace PluginHost.Pattern

open Text (Category CharSet number scalar? isHexDigit)

structure Flags where
  ignoreCase : Bool := false
  multiLine : Bool := false
  dotAll : Bool := false
  crlf : Bool := false
  verbose : Bool := false
  swapGreed : Bool := false
  unicode : Bool := true

/-- What is left to read, and the number of groups so far with the names that some of them have. The
size of the whole text bounds how often anything in it is read. -/
structure Source where
  rest : List Char
  size : Nat
  flags : Flags := {}
  groups : Nat := 0
  names : List (List Char) := []

abbrev PatternReader := StateT Source Option

structure Part where
  pattern : Pattern
  height : Nat := 0

structure ClassPart where
  set : CharSet
  height : Nat := 0

inductive Escape
  | char (c : Char) (byte : Bool)
  | set (set : CharSet)
  | boundary (b : Boundary)

namespace PatternReader

def peek : PatternReader (Option Char) := do pure (← get).rest.head?

def next : PatternReader Char := do
  match (← get).rest with
  | c :: rest => do modify fun s => { s with rest }; pure c
  | [] => failure

def flags : PatternReader Flags := do pure (← get).flags

def accept (text : String) : PatternReader Bool := do
  match Text.dropPrefix? text.toList (← get).rest with
  | some rest => do modify fun s => { s with rest }; pure true
  | none => pure false

def expect (c : Char) : PatternReader Unit := do
  if (← next) = c then pure () else failure

def skipVerbose (comment : Bool) : List Char → List Char
  | [] => []
  | c :: rest =>
    if comment then skipVerbose (c != '\n') rest
    else if Text.isSpace c then skipVerbose false rest
    else if c == '#' then skipVerbose true rest
    else c :: rest

def space : PatternReader Unit := modify fun s =>
  if s.flags.verbose then { s with rest := skipVerbose false s.rest } else s

def step : PatternReader Char := do
  let c ← next
  space
  pure c

def more : PatternReader Unit := do
  if (← peek).isNone then failure

def takeWhile (p : Char → Bool) : Nat → PatternReader (List Char)
  | 0 => pure []
  | fuel + 1 => do
    if (← peek).any p then do
      let c ← step
      pure (c :: (← takeWhile p fuel))
    else pure []

def collect (p : Char → Bool) : PatternReader (List Char) := do takeWhile p (← get).size

def skipSpaces : PatternReader Unit :=
  modify fun s => { s with rest := s.rest.dropWhile Text.isSpace }

/-- Digits with blanks around them, if there are any; the number takes at most 32 bits. -/
def count? : PatternReader (Option Nat) := do
  skipSpaces
  let digits ← collect Char.isDigit
  skipSpaces
  if digits.isEmpty then pure none
  else
    let n := number 10 digits
    if n < 0x100000000 then pure (some n) else failure

def count : PatternReader Nat := do StateT.lift (← count?)

def character (code : Nat) : PatternReader Char := StateT.lift (scalar? code)

def hexCharacter (letter : Char) : PatternReader Escape := do
  more
  if (← peek) = some '\x7b' then do
    let _ ← step
    let digits ← collect isHexDigit
    expect '\x7d'
    space
    if digits.isEmpty then failure
    pure (.char (← character (number 16 digits)) false)
  else do
    let width := if letter == 'x' then 2 else if letter == 'u' then 4 else 8
    let digits ← digitsOf width
    pure (.char (← character (number 16 digits)) (letter == 'x'))
where
  digitsOf : Nat → PatternReader (List Char)
    | 0 => pure []
    | n + 1 => do
      let c ← step
      if isHexDigit c then pure (c :: (← digitsOf n)) else failure

/-- The complement, which only exists where characters are counted and not bytes. -/
def complement (set : CharSet) : PatternReader CharSet := do
  if (← flags).unicode then pure set.compl else failure

def fold (set : CharSet) : PatternReader CharSet := do
  let f ← flags
  pure (if !f.ignoreCase then set else if f.unicode then set.caseClosure
    else CharClass.asciiCaseClosure set)

def negateIf (negated : Bool) (set : CharSet) : PatternReader CharSet :=
  if negated then complement set else pure set

def splitProperty (sign : List Char) : List Char → Option (List Char × List Char)
  | [] => none
  | c :: cs =>
    match Text.dropPrefix? sign (c :: cs) with
    | some rest => some ([], rest)
    | none => (splitProperty sign cs).map fun (before, rest) => (c :: before, rest)

def propertySet (name : List Char) : Option (CharSet × Bool) := do
  let value (pair : List Char × List Char) : Option CharSet :=
    CharClass.ofValue? (String.ofList pair.1) (String.ofList pair.2)
  match splitProperty ['!', '='] name with
  | some pair => pure (← value pair, true)
  | none =>
    match (splitProperty [':'] name).orElse fun _ => splitProperty ['='] name with
    | some pair => pure (← value pair, false)
    | none => pure (← CharClass.ofName? (String.ofList name), false)

def property (negated : Bool) : PatternReader Escape := do
  more
  let name ←
    if (← peek) = some '\x7b' then do
      let _ ← step
      let name ← collect (· != '\x7d')
      let _ ← next
      pure name
    else do
      let c ← step
      if c == '\\' then failure
      pure [c]
  if !(← flags).unicode then failure
  let (set, complemented) ← StateT.lift (propertySet name)
  pure (.set (← negateIf (negated != complemented) (← fold set)))

def perlSet (c : Char) : PatternReader Escape := do
  let unicode := (← flags).unicode
  let set : CharSet := match c.toLower with
    | 'd' => if unicode then CharClass.digit else CharClass.asciiDigit
    | 's' => if unicode then CharClass.space else CharClass.asciiSpace
    | _ => if unicode then CharClass.word else CharClass.asciiWord
  pure (.set (← negateIf c.isUpper set))

/-- The name in braces after a word boundary. What does not look like a name is left alone. -/
def boundaryName : PatternReader (Option (List Char)) := do
  let before ← get
  if (← peek) ≠ some '\x7b' then pure none
  else do
    let _ ← step
    more
    let isNameChar (c : Char) : Bool := c.isAlpha || c == '-'
    if !(← peek).any isNameChar then do set before; pure none
    else do
      let name ← collect isNameChar
      expect '\x7d'
      pure (some name)

def wordBoundary : PatternReader Escape := do
  let ascii := !(← flags).unicode
  match (← boundaryName).map String.ofList with
  | none => pure (.boundary (.word ascii))
  | some "start" => pure (.boundary (.wordStart ascii))
  | some "end" => pure (.boundary (.wordEnd ascii))
  | some "start-half" => pure (.boundary (.wordStartHalf ascii))
  | some "end-half" => pure (.boundary (.wordEndHalf ascii))
  | some _ => failure

/-- ASCII characters that stand for themselves after a backslash: all but letters, digits and angle
brackets. -/
def isEscapable (c : Char) : Bool :=
  c.toNat < 128 && !c.isAlphanum && c != '<' && c != '>'

def escape : PatternReader Escape := do
  expect '\\'
  let ascii := !(← flags).unicode
  match ← peek with
  | none => failure
  | some c =>
    if c == 'x' || c == 'u' || c == 'U' then do let _ ← step; hexCharacter c
    else if c == 'p' || c == 'P' then do let _ ← step; property (c == 'P')
    else do
      let _ ← next
      match c with
      | 'd' | 's' | 'w' | 'D' | 'S' | 'W' => perlSet c
      | 'a' => pure (.char '\x07' false)
      | 'f' => pure (.char '\x0c' false)
      | 't' => pure (.char '\t' false)
      | 'n' => pure (.char '\n' false)
      | 'r' => pure (.char '\r' false)
      | 'v' => pure (.char '\x0b' false)
      | 'A' => pure (.boundary .textStart)
      | 'z' => pure (.boundary .textEnd)
      | 'b' => wordBoundary
      | 'B' => pure (.boundary (.noWord ascii))
      | '<' => pure (.boundary (.wordStart ascii))
      | '>' => pure (.boundary (.wordEnd ascii))
      | _ => if isEscapable c then pure (.char c false) else failure

def classItem : PatternReader Escape := do
  if (← peek) = some '\\' then escape else do pure (.char (← next) false)

def member (e : Escape) : PatternReader Nat := do
  match e with
  | .char c _ => if (← flags).unicode || c.toNat < 128 then pure c.toNat else failure
  | _ => failure

def asciiClass : PatternReader (Option CharSet) := do
  let before ← get
  if ← accept "[:" then do
    let negated ← accept "^"
    let s ← get
    let name := s.rest.takeWhile (· != ':')
    match CharClass.ofAsciiName? (String.ofList name),
        Text.dropPrefix? [':', ']'] (s.rest.drop name.length) with
    | some set, some rest => do
      modify fun s => { s with rest }
      pure (some (← negateIf negated (← fold set)))
    | _, _ => do set before; pure none
  else pure none

/-- In verbose notation the character that counts next: not a blank, and neither the number sign
that opens a comment nor a blank in the comment. -/
def countingChar : Bool → List Char → Option Char
  | _, [] => none
  | comment, c :: rest =>
    if Text.isSpace c then countingChar comment rest
    else if !comment && c == '#' then countingChar true rest
    else some c

/-- A character, a range of characters or the set of an escape. A hyphen before a closing bracket or
another hyphen makes no range. -/
def classRange : PatternReader CharSet := do
  let first ← classItem
  space
  more
  let after := (← get).rest.tail
  let counting := if (← flags).verbose then countingChar false after else none
  let afterHyphen := counting.orElse fun _ => after.head?
  if (← peek) ≠ some '-' || afterHyphen = some ']' || afterHyphen = some '-' then
    match first with
    | .set set => pure set
    | .boundary _ => failure
    | e => do pure (.singleton (← member e))
  else do
    let _ ← step
    more
    let first ← member first
    let last ← member (← classItem)
    if first ≤ last then pure (.range first last) else failure

/-- Two sets and what is done with them: `&` intersection, `-` difference, else the members of one
only. -/
def combine (left : Option (ClassPart × Char)) (right : ClassPart) : PatternReader ClassPart := do
  match left with
  | none => pure right
  | some (left, op) => do
    let a ← fold left.set
    let b ← fold right.set
    let set := if op == '&' then a.inter b else if op == '-' then a.diff b else a.symmDiff b
    pure ⟨set, 1 + max left.height right.height⟩

def unite (parts : List ClassPart) : ClassPart :=
  match parts with
  | [part] => part
  | [] => ⟨.empty, 0⟩
  | parts =>
    ⟨.sum (parts.map ClassPart.set), 1 + parts.foldl (fun h p => max h p.height) 0⟩

def classOperation : PatternReader (Option Char) := do
  if ← accept "&&" then pure (some '&')
  else if ← accept "--" then pure (some '-')
  else if ← accept "~~" then pure (some '~')
  else pure none

/-- The rest of a class up to its closing bracket: `left` waits for the operation's other side, for
which `parts` were found so far. -/
def classBody (nested : PatternReader ClassPart) :
    Nat → Option (ClassPart × Char) → List ClassPart → PatternReader ClassPart
  | 0, _, _ => failure
  | fuel + 1, left, parts => do
    space
    match ← peek with
    | none => failure
    | some ']' => do
      let _ ← next
      combine left (unite parts)
    | some '[' => do
      match ← asciiClass with
      | some set => classBody nested fuel left (⟨set, 0⟩ :: parts)
      | none => do
        let part ← nested
        classBody nested fuel left (part :: parts)
    | some _ => do
      match ← classOperation with
      | some op => do
        let sum ← combine left (unite parts)
        classBody nested fuel (some (sum, op)) []
      | none => do
        let set ← classRange
        classBody nested fuel left (⟨set, 0⟩ :: parts)

/-- Hyphens at the start of a class stand for themselves. -/
def leadingHyphens : Nat → PatternReader (List ClassPart)
  | 0 => pure []
  | fuel + 1 => do
    more
    if (← peek) = some '-' then do
      let _ ← step
      let rest ← leadingHyphens fuel
      pure (⟨.singleton 45, 0⟩ :: rest)
    else pure []

/-- A class in brackets. A closing bracket that comes first stands for itself. -/
def bracketed : Nat → PatternReader ClassPart
  | 0 => failure
  | depth + 1 => do
    expect '['
    space
    more
    let negated := (← peek) = some '^'
    if negated then let _ ← step
    let hyphens ← leadingHyphens (← get).size
    more
    let first : List ClassPart ←
      if hyphens.isEmpty && (← peek) = some ']' then do
        let _ ← step
        more
        pure [⟨.singleton 93, 0⟩]
      else pure hyphens
    let part ← classBody (bracketed depth) ((← get).size + 1) none first
    pure ⟨← negateIf negated (← fold part.set), 1 + part.height⟩

/-- The flags up to a colon or closing bracket. No flag may come twice, and only one minus, which
turns off what follows it. -/
def flagLetters : Nat → List Char → Flags → PatternReader (List Char × Flags)
  | 0, _, _ => failure
  | fuel + 1, seen, f => do
    match ← peek with
    | none => failure
    | some c =>
      if c == ':' || c == ')' then
        if seen.head? = some '-' then failure else pure (seen, f)
      else if seen.contains c then failure
      else do
        let _ ← next
        let on := !seen.contains '-'
        let f ← match c with
          | '-' => pure f
          | 'i' => pure { f with ignoreCase := on }
          | 'm' => pure { f with multiLine := on }
          | 's' => pure { f with dotAll := on }
          | 'R' => pure { f with crlf := on }
          | 'x' => pure { f with verbose := on }
          | 'u' => pure { f with unicode := on }
          | 'U' => pure { f with swapGreed := on }
          | _ => failure
        flagLetters fuel (c :: seen) f

/-- The name of a group, which no other group has. -/
def groupName : PatternReader Unit := do
  let isStart (c : Char) : Bool := c == '_' || Text.isAlphabetic c
  let isRest (c : Char) : Bool :=
    isStart c || c == '.' || c == '[' || c == ']' || Category.numbers.contains (Category.of c)
  let s ← get
  let name := s.rest.takeWhile isRest
  if !name.head?.any isStart then failure
  if s.names.contains name then failure
  set { s with rest := s.rest.drop name.length, names := name :: s.names }
  expect '>'

/-- The pieces of a sequence, the last one first, as one part. A switch of flags is a piece without
a part. -/
def sequence (pieces : List (Option Part)) : Part :=
  match pieces with
  | [] => { pattern := .empty }
  | [piece] => piece.getD { pattern := .empty }
  | _ =>
    let parts := pieces.reverse.filterMap id
    { pattern := .sequence (parts.map Part.pattern)
      height := 1 + parts.foldl (fun h p => max h p.height) 0 }

def repeatLast (greedy : Bool) (least : Nat) (most : Option Nat) (pieces : List (Option Part)) :
    PatternReader (List (Option Part)) := do
  match pieces with
  | some part :: earlier =>
    let repeated : Part := ⟨.repetition greedy least most part.pattern, 1 + part.height⟩
    pure (some repeated :: earlier)
  | _ => failure

/-- Whether more is tried before less, which a question mark after a repetition turns round. -/
def preference : PatternReader Bool := do pure ((← accept "?") == (← flags).swapGreed)

def repeated (pieces : List (Option Part)) : PatternReader (List (Option Part)) := do
  let (least, most) ← match ← next with
    | '?' => pure (0, some 1)
    | '*' => pure (0, none)
    | _ => pure (1, none)
  repeatLast (← preference) least most pieces

def countedRange : PatternReader (Nat × Option Nat) := do
  let least ← count?
  if (← peek) = some ',' then do
    let _ ← step
    more
    let least ← StateT.lift least
    if (← peek) = some '\x7d' then pure (least, none)
    else do pure (least, some (← count))
  else do
    let least ← StateT.lift least
    pure (least, some least)

def counted (pieces : List (Option Part)) : PatternReader (List (Option Part)) := do
  expect '\x7b'
  space
  more
  let (least, most) ← countedRange
  expect '\x7d'
  space
  let greedy ← preference
  if most.any (· < least) then failure
  repeatLast greedy least most pieces

def literal (c : Char) : PatternReader Part := do
  pure { pattern := .ofSet (← fold (.singleton c.toNat)) }

/-- Any character, as far as the flags go. A dot that stands for a byte is refused. -/
def dot : PatternReader Part := do
  let f ← flags
  if !f.unicode then failure
  let ends : CharSet := .ofChars (if f.dotAll then "" else if f.crlf then "\r\n" else "\n")
  pure { pattern := .one ends.compl }

def primitive : PatternReader Part := do
  let f ← flags
  match ← peek with
  | some '\\' => do
    match ← escape with
    | .char c byte => if byte && !f.unicode && 128 ≤ c.toNat then failure else literal c
    | .set set => pure { pattern := .ofSet set }
    | .boundary b => pure { pattern := .boundary b }
  | _ => do
    match ← next with
    | '.' => dot
    | '^' => pure { pattern := .boundary (if f.multiLine then .lineStart f.crlf else .textStart) }
    | '$' => pure { pattern := .boundary (if f.multiLine then .lineEnd f.crlf else .textEnd) }
    | c => literal c

/-- Alternatives up to a closing bracket or the end; `pieces` are those of the present one, the last
one first. -/
def alternatives (group : PatternReader (Option Part)) (depth : Nat) :
    Nat → List (Option Part) → PatternReader (List Part)
  | 0, _ => failure
  | fuel + 1, pieces => do
    space
    match ← peek with
    | none | some ')' => pure [sequence pieces]
    | some '|' => do
      let _ ← next
      let rest ← alternatives group depth fuel []
      pure (sequence pieces :: rest)
    | some '(' => do
      let piece ← group
      alternatives group depth fuel (piece :: pieces)
    | some '[' => do
      let part ← bracketed depth
      alternatives group depth fuel (some ⟨.ofSet part.set, part.height⟩ :: pieces)
    | some '\x7b' => do alternatives group depth fuel (← counted pieces)
    | some c => do
      if c == '?' || c == '*' || c == '+' then alternatives group depth fuel (← repeated pieces)
      else do
        let part ← primitive
        alternatives group depth fuel (some part :: pieces)

def choice (parts : List Part) : Part :=
  match parts with
  | [] => { pattern := .empty }
  | [part] => part
  | _ =>
    { pattern := .choice (parts.map Part.pattern)
      height := 1 + parts.foldl (fun h p => max h p.height) 0 }

inductive Opening
  | numbered (n : Nat)
  | plain
  | switch

def nextNumber : PatternReader Opening := do
  let n := (← get).groups + 1
  modify fun s => { s with groups := n }
  pure (.numbered n)

def groupOpening (outer : Flags) : PatternReader Opening := do
  if ← (do if ← accept "?P<" then pure true else accept "?<") then do
    let opening ← nextNumber
    groupName
    pure opening
  else if ← accept "?" then do
    let (letters, f) ← flagLetters ((← get).size + 2) [] outer
    let closing ← next
    modify fun s => { s with flags := f }
    if closing ≠ ')' then pure .plain
    else if letters.isEmpty then failure
    else pure .switch
  else nextNumber

def group : Nat → PatternReader (Option Part)
  | 0 => failure
  | depth + 1 => do
    expect '('
    space
    let outer ← flags
    let rest := (← get).rest
    let looks := ["?=", "?!", "?<=", "?<!"].any fun mark =>
      (Text.dropPrefix? mark.toList rest).isSome
    if looks then failure
    let opening ← groupOpening outer
    match opening with
    | .switch => pure none
    | opening => do
      let parts ← alternatives (group depth) depth ((← get).size + 1) []
      expect ')'
      modify fun s => { s with flags := outer }
      let part := choice parts
      let pattern := match opening with
        | .numbered n => .group n part.pattern
        | _ => part.pattern
      pure (some ⟨pattern, part.height + 1⟩)

end PatternReader

def depthLimit : Nat := 250

def read? (text : String) : Option Pattern := do
  let read : PatternReader (List Part) :=
    PatternReader.alternatives (PatternReader.group (depthLimit + 1)) (depthLimit + 1)
      (text.length + 1) []
  let (parts, source) ← read.run { rest := text.toList, size := text.length }
  let part := PatternReader.choice parts
  if source.rest.isEmpty && part.height ≤ depthLimit then some part.pattern else none

def ofText (text : String) : Except PatternFault Pattern :=
  match read? text with
  | none => throw .malformed
  | some p => if Machine.fits p then pure p else throw .tooLarge

end PluginHost.Pattern
