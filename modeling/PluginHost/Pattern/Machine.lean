import Std.Data.HashMap
import PluginHost.Pattern

/-!
The size of the machine that looks for a pattern in the bytes of a text. Only the size is worked out
here: how many states the machine has and what they hold. There are two machines, one that reads
forwards and notes where groups start and end, and one that reads backwards; a pattern is kept only
if both fit into the memory that is set aside for one.
-/
namespace PluginHost.Pattern.Machine

open Text (CharSet)

inductive Direction
  | forwards
  | backwards
  deriving DecidableEq

structure Size where
  states : Nat := 0
  held : Nat := 0

def Size.bytes (s : Size) : Nat := 32 * s.states + s.held

/-- What a machine may take. -/
def limit : Nat := 10485760

abbrev Build := StateT Size Option

namespace Build

def grow (states held : Nat) : Build Unit := do
  let s ← get
  let s : Size := ⟨s.states + states, s.held + held⟩
  if limit < s.bytes then failure
  set s

def state (held : Nat) : Build Nat := do
  let s ← get
  grow 1 held
  pure s.states

def step (ranges : Nat) : Build Nat := state (8 * ranges)

def fork (ways : Nat) : Build Unit := grow 1 (4 * ways)

def stop : Build Nat := state 0

def many (build : Build Unit) : Nat → Build Unit
  | 0 => pure ()
  | n + 1 => do build; many build n

end Build

abbrev ByteRange := Nat × Nat

def utf8 (n : Nat) : List Nat :=
  if n < 0x80 then [n]
  else if n < 0x800 then [0xC0 + n / 64, 0x80 + n % 64]
  else if n < 0x10000 then [0xE0 + n / 4096, 0x80 + n / 64 % 64, 0x80 + n % 64]
  else [0xF0 + n / 262144, 0x80 + n / 4096 % 64, 0x80 + n / 64 % 64, 0x80 + n % 64]

/-- Where a range of code points is parted so that in each part the bytes in every place form a
range: the last code point before the cut. -/
def cut? (first last : Nat) : Option Nat :=
  let lengths := [0x7F, 0x7FF, 0xFFFF].find? fun m => first ≤ m && m < last
  lengths.orElse fun _ =>
    if last < 0x80 then none
    else [64, 4096, 262144].findSome? fun block =>
      if first / block = last / block then none
      else if first % block ≠ 0 then some (first - first % block + block - 1)
      else if last % block ≠ block - 1 then some (last - last % block - 1)
      else none

/-- The byte sequences of a range of code points, each a range for every place. No range is cut more
often than `fuel` says. -/
def sequencesOf : Nat → Nat × Nat → List (List ByteRange)
  | 0, _ => []
  | fuel + 1, (first, last) =>
    if last < first then []
    else if first < 0xE000 && 0xD7FF < last then
      sequencesOf fuel (first, 0xD7FF) ++ sequencesOf fuel (0xE000, last)
    else match cut? first last with
      | some m => sequencesOf fuel (first, m) ++ sequencesOf fuel (m + 1, last)
      | none => [(utf8 first).zip (utf8 last)]

def sequences (s : CharSet) : List (List ByteRange) := s.ranges.flatMap (sequencesOf 16)

/-- Mixes numbers into one, as the hash function FNV-1a does with bytes. -/
def hash (numbers : List Nat) : UInt64 :=
  numbers.foldl (fun h n => (h ^^^ n.toUInt64) * 1099511628211) 14695981039346656037

/-- States by what they were made from, so that none is made twice. There is a limited number of
places, and a state takes the place of an earlier one. -/
abbrev Known := Std.HashMap UInt64 (List Nat × Nat)

def known (places : UInt64) (key : List Nat) (make : Build Nat) : StateT Known Build Nat := do
  let place := hash key % places
  match (← get)[place]? with
  | some (k, n) => if k = key then return n
  | none => pure ()
  let n ← make
  modify fun table => table.insert place (key, n)
  pure n

def grouped : List (List ByteRange) → List (ByteRange × List (List ByteRange))
  | [] => []
  | [] :: rest => grouped rest
  | (r :: tail) :: rest =>
    match grouped rest with
    | (next, tails) :: later =>
      if r = next then (r, tail :: tails) :: later else (r, [tail]) :: (next, tails) :: later
    | [] => [(r, [tail])]

/-- The state that reads one of some sequences, each of at most `depth` bytes, and then comes to
`target`. -/
def forwardSet (target : Nat) : Nat → List (List ByteRange) → StateT Known Build Nat
  | 0, _ => pure target
  | depth + 1, seqs => do
    let steps ← (grouped seqs).mapM fun (r, tails) => do
      let next ← if tails = [[]] then pure target else forwardSet target depth tails
      pure [r.1, r.2, next]
    known 10000 steps.flatten (Build.step steps.length)

def backwardSequence (next : Nat) : List ByteRange → StateT Known Build Unit
  | [] => pure ()
  | r :: rest => do
    let n ← known 1000 [next, r.1, r.2] Build.stop
    backwardSequence n rest

def characters (d : Direction) (s : CharSet) : Build Unit := do
  if s.ranges.all fun r => r.2 < 0x80 then
    let _ ← Build.stop
    let _ ← Build.step s.ranges.length
  else match d with
    | .forwards => do
      let target ← Build.stop
      let _ ← (forwardSet target 4 (sequences s)).run {}
    | .backwards => do
      let seqs := sequences s
      Build.fork seqs.length
      let target ← Build.stop
      let _ ← (seqs.forM (backwardSequence target)).run {}

/-- Words up to an empty one, words between empty ones and so on. Of empty words side by side only
the first counts. -/
def chunksOf : List (List Nat) → List (List (List Nat))
  | [] => [[]]
  | [] :: rest =>
    match chunksOf rest with
    | [] :: chunk :: later => [] :: chunk :: later
    | chunks => [] :: chunks
  | word :: rest =>
    match chunksOf rest with
    | chunk :: later => (word :: chunk) :: later
    | [] => [[word]]

def tree : Nat → List (List Nat) → Build Unit
  | 0, _ => pure ()
  | depth + 1, words => do
    let chunks := chunksOf words
    let filled := chunks.filter fun chunk => !chunk.isEmpty
    Build.fork (filled.length + (chunks.length - 1))
    filled.forM fun chunk => do
      let heads := (chunk.filterMap List.head?).eraseDups
      let _ ← if heads.length = 1 then Build.stop else Build.step heads.length
      heads.forM fun b => do
        let tails := (chunk.filter (·.head? == some b)).map List.tail
        if tails.all List.isEmpty then pure () else tree depth tails

def textOf? : Pattern → Option (List Nat)
  | text cs => some (cs.flatMap fun c => utf8 c.toNat)
  | _ => none

def texts (d : Direction) (words : List (List Nat)) : Build Unit := do
  let words := if d = .forwards then words else words.map List.reverse
  let _ ← Build.stop
  tree (words.foldl (fun n w => max n w.length) 0 + 1) words

/-- The states for a part of a pattern, which may be an alternative with `before` others before it.
The fork between alternatives is made when there are two of them. -/
def part (d : Direction) (before : Nat) : Pattern → Build Unit
  | empty | boundary _ => do
    let _ ← Build.stop
    joined
  | text cs => do
    Build.grow (Text.byteLength cs) 0
    joined
  | one s => do
    characters d s
    joined
  | group _ body => do
    if d = .forwards then Build.grow 2 0
    part d 0 body
    joined
  | times _ least most body => do
    let once := part d 0 body
    match least, most with
    | 0, some 1 => do
      Build.fork 2
      once
      Build.grow 1 0
    | 0, none =>
      if body.minLength.any (0 < ·) then do
        Build.fork 2
        once
      else do
        once
        Build.fork 2
        Build.fork 2
        Build.grow 1 0
    | n, none => do
      Build.many once n
      Build.fork 2
    | n, some m =>
      if n = m then Build.many once n
      else do
        if n = 0 then Build.grow 1 0 else Build.many once n
        Build.grow 1 0
        Build.many (do Build.fork 2; once) (m - n)
    joined
  | both first rest => do
    if d = .forwards then do
      part d 0 first
      part d 0 rest
    else do
      part d 0 rest
      part d 0 first
    joined
  | either first rest =>
    match if before = 0 then (either first rest).alternatives.mapM textOf? else none with
    | some words => texts d words
    | none => do
      part d 0 first
      joined
      part d (before + 1) rest
where
  joined : Build Unit :=
    match before with
    | 0 => pure ()
    | 1 => do
      Build.fork 2
      Build.grow 1 0
    | _ => Build.grow 0 4

def atStart : Pattern → Bool
  | boundary .textStart => true
  | group _ body => atStart body
  | times _ least _ body => 0 < least && atStart body
  | both first rest => atStart first || (first.maxLength = some 0 && atStart rest)
  | either first rest => atStart first && atStart rest
  | _ => false

def atEnd : Pattern → Bool
  | boundary .textEnd => true
  | group _ body => atEnd body
  | times _ least _ body => 0 < least && atEnd body
  | both first rest => atEnd rest || (atEnd first && rest.maxLength = some 0)
  | either first rest => atEnd first && atEnd rest
  | _ => false

/-- The whole machine. Where the pattern may be found further on, it first skips bytes. -/
def whole (d : Direction) (p : Pattern) : Build Unit := do
  if (if d = .forwards then atStart p else atEnd p) then Build.grow 1 0
  else do
    Build.fork 2
    Build.grow 1 0
    let _ ← Build.step 1
  part d 0 (if d = .forwards then group 0 p else p)
  Build.grow 1 0

def fits (p : Pattern) : Bool :=
  [Direction.forwards, Direction.backwards].all fun d => ((whole d p).run {}).isSome

end PluginHost.Pattern.Machine
