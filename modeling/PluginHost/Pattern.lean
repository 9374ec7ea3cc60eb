import PluginHost.Pattern.CharClass

/-!
Patterns and the texts in which they are found. Which of several matches would come first does not
matter here: a pattern is found in a text or not. Patterns are built in a simplified form: texts
side by side are one text, alternatives that are single characters are one set, and a repetition of
nothing but places is not written out.
-/
namespace PluginHost

open Text (CharSet)

inductive Boundary
  | textStart
  | textEnd
  | lineStart (crlf : Bool)
  | lineEnd (crlf : Bool)
  | word (ascii : Bool)
  | noWord (ascii : Bool)
  | wordStart (ascii : Bool)
  | wordEnd (ascii : Bool)
  | wordStartHalf (ascii : Bool)
  | wordEndHalf (ascii : Bool)
  deriving DecidableEq

/-- Sequences and alternatives nest to the right. A greedy repetition tries more before less. -/
inductive Pattern
  | empty
  | text (cs : List Char)
  | one (set : CharSet)
  | boundary (b : Boundary)
  | group (number : Nat) (body : Pattern)
  | times (greedy : Bool) (least : Nat) (most : Option Nat) (body : Pattern)
  | both (first rest : Pattern)
  | either (first rest : Pattern)
  deriving DecidableEq

namespace Boundary

def holds (before after : Option Char) : Boundary → Bool
  | textStart => before.isNone
  | textEnd => after.isNone
  | lineStart crlf =>
    before.isNone || before == some '\n' || (crlf && before == some '\r' && after != some '\n')
  | lineEnd crlf =>
    after.isNone || (after == some '\n' && !(crlf && before == some '\r')) ||
      (crlf && after == some '\r')
  | word ascii => isWord ascii before != isWord ascii after
  | noWord ascii => isWord ascii before == isWord ascii after
  | wordStart ascii => !isWord ascii before && isWord ascii after
  | wordEnd ascii => isWord ascii before && !isWord ascii after
  | wordStartHalf ascii => !isWord ascii before
  | wordEndHalf ascii => !isWord ascii after
where
  isWord (ascii : Bool) (c : Option Char) : Bool :=
    let words := if ascii then Pattern.CharClass.asciiWord else Pattern.CharClass.word
    c.any fun c => words.contains c.toNat

end Boundary

namespace Pattern

def parts : Pattern → List Pattern
  | empty => []
  | both first rest => first :: rest.parts
  | p => [p]

def ofParts : List Pattern → Pattern
  | [] => empty
  | [p] => p
  | p :: rest => both p (ofParts rest)

def joinTexts : List Pattern → List Pattern
  | [] => []
  | text cs :: rest =>
    match joinTexts rest with
    | text more :: later => text (cs ++ more) :: later
    | joined => text cs :: joined
  | p :: rest => p :: joinTexts rest

def sequence (ps : List Pattern) : Pattern := ofParts (joinTexts (ps.flatMap parts))

def alternatives : Pattern → List Pattern
  | either first rest => first :: rest.alternatives
  | p => [p]

/-- No alternative is never found. -/
def ofAlternatives : List Pattern → Pattern
  | [] => one .empty
  | [p] => p
  | p :: rest => either p (ofAlternatives rest)

def ofSet (s : CharSet) : Pattern :=
  match s.single?.bind Text.scalar? with
  | some c => text [c]
  | none => one s

def character? : Pattern → Option CharSet
  | text [c] => some (.singleton c.toNat)
  | _ => none

def set? : Pattern → Option CharSet
  | one s => some s
  | _ => none

def simpleChoice (ps : List Pattern) : Pattern :=
  match ps with
  | [] | [_] => ofAlternatives ps
  | _ =>
    match (ps.mapM character?).orElse fun _ => ps.mapM set? with
    | some sets => ofSet (.sum sets)
    | none => ofAlternatives ps

def sharedStart : List Pattern → List Pattern → List Pattern
  | p :: ps, q :: qs => if p = q then p :: sharedStart ps qs else []
  | _, _ => []

def commonStart (ps : List Pattern) : List Pattern :=
  let isSequence : Pattern → Bool
    | both _ _ => true
    | _ => false
  match ps with
  | p :: rest =>
    if ps.all isSequence then rest.foldl (fun start q => sharedStart start q.parts) p.parts else []
  | [] => []

def choice (ps : List Pattern) : Pattern :=
  let all := ps.flatMap alternatives
  match simpleChoice all with
  | either first rest =>
    match commonStart all with
    | [] => either first rest
    | start =>
      let ends := all.map fun p => sequence (p.parts.drop start.length)
      sequence (start ++ [simpleChoice (ends.flatMap alternatives)])
  | p => p

/-- Bytes that any text in which the whole pattern is found takes at least. -/
def minLength : Pattern → Option Nat
  | empty | boundary _ => some 0
  | text cs => some (Text.byteLength cs)
  | one s => s.ranges.head?.map fun r => utf8Length r.1
  | group _ body => body.minLength
  | times _ least _ body => body.minLength.map (· * least)
  | both first rest => do pure ((← first.minLength) + (← rest.minLength))
  | either first rest => do pure (min (← first.minLength) (← rest.minLength))
where
  utf8Length (n : Nat) : Nat :=
    if n < 0x80 then 1 else if n < 0x800 then 2 else if n < 0x10000 then 3 else 4

def maxLength : Pattern → Option Nat
  | empty | boundary _ => some 0
  | text cs => some (Text.byteLength cs)
  | one s => s.ranges.getLast?.map fun r => minLength.utf8Length r.2
  | group _ body => body.maxLength
  | times _ _ most body => do pure ((← body.maxLength) * (← most))
  | both first rest => do pure ((← first.maxLength) + (← rest.maxLength))
  | either first rest => do pure (max (← first.maxLength) (← rest.maxLength))

/-- A pattern a number of times in a row. What takes no characters is found many times in a row
wherever it is found once. -/
def repetition (greedy : Bool) (least : Nat) (most : Option Nat) (body : Pattern) : Pattern :=
  let still := body.maxLength = some 0
  let least := if still then min least 1 else least
  let most := if still then some (min (most.getD 1) 1) else most
  if most = some 0 then empty
  else if least = 1 && most = some 1 then body
  else times greedy least most body

def inOrder (chars : Array Char) (places : List Nat) : List Nat :=
  (List.range (chars.size + 1)).filter places.contains

/-- All that can be reached from `found` within a number of steps; `fresh` came last. -/
def reach (step : List Nat → List Nat) : Nat → List Nat → List Nat → List Nat
  | 0, found, _ => found
  | n + 1, found, fresh =>
    let next := (step fresh).filter fun i => !found.contains i
    if next.isEmpty then found else reach step n (found ++ next) next

def after (step : List Nat → List Nat) : Nat → List Nat → List Nat
  | 0, places => places
  | n + 1, places =>
    let next := step places
    if next = places then places else after step n next

/-- Where matches that start at one of some places can end. -/
def ends (chars : Array Char) : Pattern → List Nat → List Nat
  | empty, starts => starts
  | text cs, starts =>
    (starts.filter fun i => (chars.extract i (i + cs.length)).toList == cs).map (· + cs.length)
  | one set, starts =>
    (starts.filter fun i => chars[i]?.any fun c => set.contains c.toNat).map (· + 1)
  | boundary b, starts =>
    starts.filter fun i => b.holds (if i = 0 then none else chars[i - 1]?) chars[i]?
  | group _ body, starts => body.ends chars starts
  | times _ least most body, starts =>
    let first := after (body.ends chars) least starts
    let more := match most with
      | some m => min (m - least) (chars.size + 1)
      | none => chars.size + 1
    inOrder chars (reach (body.ends chars) more first first)
  | both first rest, starts => rest.ends chars (first.ends chars starts)
  | either first rest, starts => inOrder chars (first.ends chars starts ++ rest.ends chars starts)

def foundIn (p : Pattern) (s : String) : Bool :=
  let chars := s.toList.toArray
  !(p.ends chars (List.range (chars.size + 1))).isEmpty

end Pattern

end PluginHost
