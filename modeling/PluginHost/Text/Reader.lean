/-!
Readers take characters from the front of a text and give what they read, or nothing. They are
tried in order, so a reader that fails has read nothing.
-/
namespace PluginHost.Text

abbrev Reader := StateT (List Char) Option

namespace Reader

variable {α β : Type}

def peek : Reader (Option Char) := fun cs => some (cs.head?, cs)

def next : Reader Char
  | c :: cs => some (c, cs)
  | [] => none

def sat (p : Char → Bool) : Reader Char
  | c :: cs => if p c then some (c, cs) else none
  | [] => none

def char (c : Char) : Reader Unit
  | d :: cs => if c = d then some ((), cs) else none
  | [] => none

def word : List Char → Reader Unit
  | [] => pure ()
  | c :: rest => do char c; word rest

def takeWhile (p : Char → Bool) : Reader (List Char) := fun cs =>
  some (cs.takeWhile p, cs.dropWhile p)

def takeWhile1 (p : Char → Bool) : Reader (List Char) := do
  let c ← sat p
  let rest ← takeWhile p
  pure (c :: rest)

def times (p : Char → Bool) : Nat → Reader (List Char)
  | 0 => pure []
  | n + 1 => do
    let c ← sat p
    let rest ← times p n
    pure (c :: rest)

def atEnd : Reader Unit
  | [] => some ((), [])
  | _ => none

def maybe (r : Reader α) : Reader (Option α) := fun cs =>
  match r cs with
  | some (a, rest) => some (some a, rest)
  | none => some (none, cs)

/-- Does `r` read something here? Nothing is taken. -/
def ahead (r : Reader α) : Reader Bool := fun cs => some ((r cs).isSome, cs)

def orElse (r s : Reader α) : Reader α := fun cs =>
  match r cs with
  | some result => some result
  | none => s cs

/-- As many as can be read one after the other, but not more than `bound` has characters. -/
def manyFrom (r : Reader α) (bound : List Char) : Reader (List α) :=
  match bound with
  | [] => pure []
  | _ :: fuel => do
    match ← maybe r with
    | some a =>
      let rest ← manyFrom r fuel
      pure (a :: rest)
    | none => pure []

def many (r : Reader α) : Reader (List α) := fun cs => manyFrom r cs cs

def separated1 (r : Reader α) (separator : Reader β) : Reader (List α) := do
  let first ← r
  let rest ← many (do let _ ← separator; r)
  pure (first :: rest)

def run (r : Reader α) (cs : List Char) : Option α :=
  match r cs with
  | some (a, []) => some a
  | _ => none

end Reader

/-- The number that decimal, octal or hexadecimal digits write. -/
def number (base : Nat) (digits : List Char) : Nat :=
  digits.foldl (fun n c => n * base + digit c) 0
where
  digit (c : Char) : Nat :=
    if c.isDigit then c.toNat - 48
    else if 97 ≤ c.toNat then c.toNat - 87
    else c.toNat - 55

def wordLimit : Nat := 0x10000000000000000

/-- Signed machine words are below this, and not below its negative. -/
def signedLimit : Nat := 0x8000000000000000

/-- A number in the range of a machine word: decimal digits, perhaps after a plus sign. -/
def wordNumber? (text : List Char) : Option Nat :=
  let digits := match text with
    | '+' :: rest => rest
    | cs => cs
  if digits.isEmpty || !digits.all Char.isDigit then none
  else if number 10 digits < wordLimit then some (number 10 digits)
  else none

def isHexDigit (c : Char) : Bool :=
  c.isDigit || ('a' ≤ c && c ≤ 'f') || ('A' ≤ c && c ≤ 'F')

def scalar? (n : Nat) : Option Char :=
  if n < 0xD800 || (0xDFFF < n && n < 0x110000) then some (Char.ofNat n) else none

end PluginHost.Text
