import PluginHost.Text.Reader
import PluginHost.Yaml.Cursor
import PluginHost.Yaml.Token

/-!
Anchors, aliases, tags and directives. Tags are kept byte by byte: each character of the lists here
stands for one byte, because an escape in a tag writes a byte.
-/
namespace PluginHost.Yaml

open Text (number isHexDigit)

def anchorName (c : Cursor) : Option (List Char × Cursor) :=
  let (name, c) := c.takeWhile isNameChar
  if name.isEmpty then none
  else if endsWord c.rest || c.head?.any "?:,]\x7d%@\x60".toList.contains then some (name, c)
  else none

def byteCount (lead : Nat) : Option Nat :=
  if lead < 0x80 then some 1
  else if lead < 0xC0 then none
  else if lead < 0xE0 then some 2
  else if lead < 0xF0 then some 3
  else if lead < 0xF8 then some 4
  else none

def escapedByte? (c : Cursor) : Option (Nat × Cursor) :=
  match c.rest with
  | '%' :: a :: b :: _ =>
    if isHexDigit a && isHexDigit b then some (number 16 [a, b], c.advance 3) else none
  | _ => none

def continuation : Nat → Cursor → Option (List Char × Cursor)
  | 0, c => some ([], c)
  | n + 1, c => do
    let (byte, c) ← escapedByte? c
    if byte / 64 = 2 then
      let (more, c) ← continuation n c
      some (Char.ofNat byte :: more, c)
    else none

def escapedBytes (c : Cursor) : Option (List Char × Cursor) := do
  let (byte, c) ← escapedByte? c
  let (more, c) ← continuation ((← byteCount byte) - 1) c
  some (Char.ofNat byte :: more, c)

/-- Characters of a tag. In the long form brackets and commas count too. -/
def isTagChar (long : Bool) (ch : Char) : Bool :=
  isNameChar ch || ";/?:@&=+$.!~*'()".toList.contains ch || (long && ",[]".toList.contains ch)

/-- The characters of a tag from the cursor on, not more than `bound` has. -/
def tagChars (long : Bool) (bound : List Char) (c : Cursor) : Option (List Char × Cursor) :=
  match bound with
  | [] => some ([], c)
  | _ :: fuel =>
    match c.head? with
    | none => some ([], c)
    | some ch =>
      if ch == '%' then do
        let (bytes, c) ← escapedBytes c
        let (more, c) ← tagChars long fuel c
        some (bytes ++ more, c)
      else if isTagChar long ch then do
        let (more, c) ← tagChars long fuel c.skip
        some (ch :: more, c)
      else some ([], c)

/-- An exclamation mark, a name, and perhaps another mark. -/
def tagHandle (c : Cursor) : Option (List Char × Cursor) :=
  if c.looksAt '!' then
    let (name, c) := c.skip.takeWhile isNameChar
    if c.looksAt '!' then some ('!' :: name ++ ['!'], c.skip) else some ('!' :: name, c)
  else none

/-- A tag in angle brackets has no handle, nor has the lone exclamation mark. -/
def tagText (c : Cursor) : Option (Token × Cursor) :=
  if c.skip.looksAt '<' then do
    let (suffix, c) ← tagChars true c.rest (c.advance 2)
    if suffix.isEmpty || !c.looksAt '>' then none else some (.tag [] suffix, c.skip)
  else do
    let (handle, c) ← tagHandle c
    let (suffix, c) ← tagChars false c.rest c
    if handle.length ≠ 1 && handle.getLast? == some '!' then
      if suffix.isEmpty then none else some (.tag handle suffix, c)
    else
      match handle.tail ++ suffix with
      | [] => some (.tag [] ['!'], c)
      | suffix => some (.tag ['!'] suffix, c)

def tagProperty (inFlow : Bool) (c : Cursor) : Option (Token × Cursor) := do
  let (token, c) ← tagText c
  if endsWord c.rest || (inFlow && c.looksAt ',') then some (token, c) else none

/-- A part of a version number: one to nine digits. -/
def versionNumber (c : Cursor) : Option (Nat × Cursor) :=
  let (digits, c) := c.takeWhile Char.isDigit
  if digits.isEmpty || 9 < digits.length then none else some (number 10 digits, c)

def versionDirective (c : Cursor) : Option (Token × Cursor) := do
  let (major, c) ← versionNumber (c.skipWhile isBlank)
  if !c.looksAt '.' then none
  let (minor, c) ← versionNumber c.skip
  some (.version major minor, c)

def tagDirective (c : Cursor) : Option (Token × Cursor) := do
  let (handle, c) ← tagHandle (c.skipWhile isBlank)
  if handle.length ≠ 1 && handle.getLast? ≠ some '!' then none
  if !c.head?.any isBlank then none
  let c := c.skipWhile isBlank
  let (expansion, c) ← tagChars true c.rest c
  if expansion.isEmpty || !endsWord c.rest then none
  some (.tagShorthand handle expansion, c)

def directive (c : Cursor) : Option (Token × Cursor) := do
  let (name, c) := c.skip.takeWhile isNameChar
  if !endsWord c.rest then none
  let (token, c) ←
    if name == "YAML".toList then versionDirective c
    else if name == "TAG".toList then tagDirective c
    else none
  some (token, ← c.finishLine)

end PluginHost.Yaml
