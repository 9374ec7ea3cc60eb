import PluginHost.Yaml.Property
import PluginHost.Yaml.Scalar

/-!
A YAML text as a list of tokens. That something was a key is known only when its colon is met:
until then its place is remembered, and the token that opens it is put in front of it afterwards.
Levels of indentation become tokens too.
-/
namespace PluginHost.Yaml

/-- A place where a key may have begun. A required one stands where nothing but a key can. -/
structure KeyMark where
  required : Bool
  position : Nat
  line : Nat
  index : Nat
  column : Nat

/-- A key stays on its line and within 1024 characters. -/
def KeyMark.expired (k : KeyMark) (c : Cursor) : Bool :=
  k.line < c.line || k.index + 1024 < c.index

/-- `indent` is the column of the innermost block collection and `outer` those around it. There is
one possible key for the block level and one for each open flow collection, innermost first. -/
structure TokenStream where
  cursor : Cursor
  tokens : Array Token := #[]
  indent : Int := -1
  outer : List Int := []
  keyAllowed : Bool := true
  keys : List (Option KeyMark) := [none]

namespace TokenStream

def inFlow (s : TokenStream) : Bool := 1 < s.keys.length

def push (s : TokenStream) (token : Token) : TokenStream :=
  { s with tokens := s.tokens.push token }

def take (s : TokenStream) (n : Nat) (token : Token) : TokenStream :=
  { s.push token with cursor := s.cursor.advance n }

def allowKey (s : TokenStream) (allowed : Bool) : TokenStream := { s with keyAllowed := allowed }

def dropExpired (s : TokenStream) : Option TokenStream :=
  let expired (k : Option KeyMark) : Bool := k.any fun k => k.expired s.cursor
  if s.keys.any fun k => expired k && k.any (·.required) then none
  else some { s with keys := s.keys.map fun k => if expired k then none else k }

def forgetKey (s : TokenStream) : Option TokenStream :=
  match s.keys with
  | some k :: rest => if k.required then none else some { s with keys := none :: rest }
  | _ => some s

def markKey (s : TokenStream) : Option TokenStream :=
  if !s.keyAllowed then some s
  else do
    let s ← s.forgetKey
    let c := s.cursor
    let mark : KeyMark :=
      { required := !s.inFlow && s.indent == c.column, position := s.tokens.size
        line := c.line, index := c.index, column := c.column }
    some { s with keys := some mark :: s.keys.tail }

def unwind (column : Int) : Int → List Int → Nat × Int × List Int
  | indent, [] => (0, indent, [])
  | indent, o :: outer =>
    if column < indent then
      let (n, indent, outer) := unwind column o outer
      (n + 1, indent, outer)
    else (0, indent, o :: outer)

def closeBlocks (s : TokenStream) (column : Int) : TokenStream :=
  if s.inFlow then s
  else
    let (n, indent, outer) := unwind column s.indent s.outer
    { s with tokens := s.tokens ++ Array.replicate n .blockEnd, indent, outer }

/-- Start a block collection whose first token goes to `position`, if `column` is further in. -/
def openBlock (s : TokenStream) (column position : Nat) (token : Token) : TokenStream :=
  if s.inFlow || column ≤ s.indent then s
  else
    { s with
      tokens := s.tokens.insertIdxIfInBounds position token
      indent := column, outer := s.indent :: s.outer }

/-- Pass over white space and comments. A tab does not count where a key may begin. A byte order mark
at the start of a line is passed over too, but takes a column. -/
def skipGap (bound : List Char) (s : TokenStream) : TokenStream :=
  match bound with
  | [] => s
  | _ :: fuel =>
    let c := if s.cursor.column = 0 && s.cursor.looksAt '\ufeff' then s.cursor.skip else s.cursor
    let tabs := s.inFlow || !s.keyAllowed
    let c := (c.skipWhile fun ch => ch == ' ' || (tabs && ch == '\t')).skipComment
    match c.lineBreak? with
    | some (_, c) => skipGap fuel { s with cursor := c, keyAllowed := s.keyAllowed || !s.inFlow }
    | none => { s with cursor := c }

def endBlocks (s : TokenStream) : Option TokenStream := do
  some ((← (s.closeBlocks (-1)).forgetKey).allowKey false)

def scanDirective (s : TokenStream) : Option TokenStream := do
  let s ← s.endBlocks
  let (token, c) ← directive s.cursor
  some { s.push token with cursor := c }

def openFlow (s : TokenStream) (token : Token) : Option TokenStream := do
  let s ← s.markKey
  some (({ s with keys := none :: s.keys }.take 1 token).allowKey true)

def closeFlow (s : TokenStream) (token : Token) : Option TokenStream := do
  let s ← s.forgetKey
  let s := if s.inFlow then { s with keys := s.keys.tail } else s
  some ((s.take 1 token).allowKey false)

def scanFlowEntry (s : TokenStream) : Option TokenStream := do
  some (((← s.forgetKey).take 1 .flowEntry).allowKey true)

/-- An entry, key or value that starts a block collection must stand where a key may. -/
def enterBlock (s : TokenStream) (token : Token) : Option TokenStream :=
  if s.inFlow then some s
  else if s.keyAllowed then some (s.openBlock s.cursor.column s.tokens.size token)
  else none

def scanBlockEntry (s : TokenStream) : Option TokenStream := do
  let s ← s.enterBlock .blockSequenceStart
  some (((← s.forgetKey).take 1 .blockEntry).allowKey true)

def scanKey (s : TokenStream) : Option TokenStream := do
  let s ← s.enterBlock .blockMappingStart
  some (((← s.forgetKey).take 1 .key).allowKey !s.inFlow)

def scanValue (s : TokenStream) : Option TokenStream := do
  match s.keys with
  | some k :: rest =>
    let s := { s with tokens := s.tokens.insertIdxIfInBounds k.position .key }
    let s := { s.openBlock k.column k.position .blockMappingStart with keys := none :: rest }
    some ((s.take 1 .value).allowKey false)
  | _ =>
    let s ← s.enterBlock .blockMappingStart
    some ((s.take 1 .value).allowKey !s.inFlow)

def scanName (s : TokenStream) (make : List Char → Token) : Option TokenStream := do
  let s ← s.markKey
  let (name, c) ← anchorName s.cursor.skip
  some { s.push (make name) with cursor := c, keyAllowed := false }

def scanTag (s : TokenStream) : Option TokenStream := do
  let s ← s.markKey
  let (token, c) ← tagProperty s.inFlow s.cursor
  some { s.push token with cursor := c, keyAllowed := false }

def scanBlockScalar (s : TokenStream) (literal : Bool) : Option TokenStream := do
  let s ← s.forgetKey
  let (text, c) ← blockScalar literal s.indent s.cursor.skip
  some { s.push (.scalar text false) with cursor := c, keyAllowed := true }

def scanQuoted (s : TokenStream) (quote : Char) : Option TokenStream := do
  let s ← s.markKey
  let c := s.cursor.skip
  let (text, c) ← quotedScalar quote c.rest c
  some { s.push (.scalar text false) with cursor := c, keyAllowed := false }

def scanPlain (s : TokenStream) : Option TokenStream := do
  let s ← s.markKey
  let c := s.cursor
  let (text, broken, c) ← plainScalar s.inFlow (s.indent + 1) c.rest {} c
  some { s.push (.scalar text true) with cursor := c, keyAllowed := broken }

def startsPlain (inFlow : Bool) (ch : Char) (rest : List Char) : Bool :=
  if ch == '-' then !rest.head?.any isBlank
  else if ch == '?' || ch == ':' then !inFlow && !endsWord rest
  else !isBlank ch && !isBreak ch && !",[]\x7b\x7d#&*!|>'\"%@\x60".toList.contains ch

/-- The token at the cursor, which stands before `ch` and `rest`. -/
def scanAt (s : TokenStream) (ch : Char) (rest : List Char) : Option TokenStream :=
  let alone := endsWord rest
  if s.cursor.column = 0 && ch == '%' then s.scanDirective
  else if s.cursor.atDocumentMark then
    s.endBlocks.map (·.take 3 (if ch == '-' then .documentStart else .documentEnd))
  else match ch with
    | '[' => s.openFlow .flowSequenceStart
    | ']' => s.closeFlow .flowSequenceEnd
    | '\x7b' => s.openFlow .flowMappingStart
    | '\x7d' => s.closeFlow .flowMappingEnd
    | ',' => s.scanFlowEntry
    | '*' => s.scanName .alias
    | '&' => s.scanName .anchor
    | '!' => s.scanTag
    | '\'' => s.scanQuoted '\''
    | '"' => s.scanQuoted '"'
    | _ =>
      if ch == '-' && alone then s.scanBlockEntry
      else if ch == '?' && (s.inFlow || alone) then s.scanKey
      else if ch == ':' && (s.inFlow || alone) then s.scanValue
      else if (ch == '|' || ch == '>') && !s.inFlow then s.scanBlockScalar (ch == '|')
      else if startsPlain s.inFlow ch rest then s.scanPlain
      else none

/-- The end of the text ends the line before it. -/
def finish (s : TokenStream) : Option (List Token) := do
  some ((← s.endBlocks).push .streamEnd).tokens.toList

def scan : Nat → TokenStream → Option (List Token)
  | 0, _ => none
  | fuel + 1, s => do
    let s ← (skipGap s.cursor.rest s).dropExpired
    match s.cursor.rest with
    | [] => s.finish
    | ch :: rest => scan fuel (← (s.closeBlocks s.cursor.column).scanAt ch rest)

end TokenStream

def Token.ofText? (content : List Char) : Option (List Token) :=
  if content.all isAllowed then
    TokenStream.scan (content.length + 1) { cursor := { rest := content } }
  else none

end PluginHost.Yaml
