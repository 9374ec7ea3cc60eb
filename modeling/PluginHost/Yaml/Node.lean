import PluginHost.Yaml.TokenStream

/-!
A YAML document as a tree of nodes. Anchors are numbered; a name that is used again gets a new
number, and an alias holds the number that its name has where the alias stands.
-/
namespace PluginHost.Yaml

structure Properties where
  anchor : Option Nat := none
  tag : Option (List Char) := none
  deriving Inhabited

inductive Node
  | alias (anchor : Nat)
  | scalar (properties : Properties) (text : List Char) (plain : Bool)
  | sequence (properties : Properties) (items : List Node)
  | mapping (properties : Properties) (entries : List (Node × Node))
  deriving Inhabited

abbrev Shorthands := List (List Char × List Char)

/-- The tokens that are left, and the anchors seen so far with their numbers. -/
structure NodeSource where
  tokens : List Token
  anchors : List (List Char × Nat) := []

abbrev NodeReader := StateT NodeSource Option

namespace NodeReader

def peek : NodeReader Token := do StateT.lift (← get).tokens.head?

def skip : NodeReader Unit := modify fun s => { s with tokens := s.tokens.tail }

def nextIs (token : Token) : NodeReader Bool := do pure ((← get).tokens.head? == some token)

def nextIn (tokens : List Token) : NodeReader Bool := do pure (tokens.contains (← peek))

def accept (token : Token) : NodeReader Bool := do
  if ← nextIs token then do skip; pure true else pure false

def expect (token : Token) : NodeReader Unit := do
  if ← accept token then pure () else failure

/-- Give a name the next free number: as many as there are different names so far. -/
def register (name : List Char) : NodeReader Nat := do
  let s ← get
  let number := s.anchors.length
  set { s with anchors := (name, number) :: s.anchors.filter fun a => a.1 != name }
  pure number

/-- Where a node stands. In an indentless place a sequence may start with its first entry. -/
inductive Place
  | block
  | indentless
  | flow
  deriving DecidableEq

def emptyNode (properties : Properties) : Node := .scalar properties [] true

def anchorProperty : NodeReader (Option (List Char)) := do
  match ← peek with
  | .anchor name => do skip; pure (some name)
  | _ => pure none

/-- A tag and an expansion end before their first zero byte. -/
def upToZero (bytes : List Char) : List Char := bytes.takeWhile (· != '\x00')

def tagProperty (shorthands : Shorthands) : NodeReader (Option (List Char)) := do
  match ← peek with
  | .tag handle suffix => do
    skip
    if handle.isEmpty then pure (some (upToZero suffix))
    else do
      let expansion ← StateT.lift (shorthands.lookup handle)
      pure (some (upToZero expansion ++ upToZero suffix))
  | _ => pure none

def properties (shorthands : Shorthands) : NodeReader Properties := do
  let before ← anchorProperty
  let tag ← tagProperty shorthands
  let anchor ← match before with
    | some name => pure (some name)
    | none => anchorProperty
  match anchor with
  | some name => do pure { anchor := ← register name, tag }
  | none => pure { tag }

section Collections

variable (node : Place → NodeReader Node)

/-- A node, or an empty one where one of the given tokens follows. -/
def nodeUnless (ends : List Token) (place : Place) : NodeReader Node := do
  if ← nextIn ends then pure (emptyNode {}) else node place

def blockItems : Nat → NodeReader (List Node)
  | 0 => failure
  | fuel + 1 => do
    if ← accept .blockEnd then pure []
    else do
      expect .blockEntry
      let item ← nodeUnless node [.blockEntry, .blockEnd] .block
      pure (item :: (← blockItems fuel))

def indentlessItems : Nat → NodeReader (List Node)
  | 0 => failure
  | fuel + 1 => do
    if ← accept .blockEntry then do
      let item ← nodeUnless node [.blockEntry, .key, .value, .blockEnd] .block
      pure (item :: (← indentlessItems fuel))
    else pure []

def blockEntries : Nat → NodeReader (List (Node × Node))
  | 0 => failure
  | fuel + 1 => do
    if ← accept .blockEnd then pure []
    else do
      expect .key
      let key ← nodeUnless node [.key, .value, .blockEnd] .indentless
      let value ←
        if ← accept .value then nodeUnless node [.key, .value, .blockEnd] .indentless
        else pure (emptyNode {})
      pure ((key, value) :: (← blockEntries fuel))

/-- A mapping of one entry that is written as an item of a sequence. Without a key, one token is
passed over. -/
def singlePair : NodeReader Node := do
  let key ←
    if ← nextIn [.value, .flowEntry, .flowSequenceEnd] then do skip; pure (emptyNode {})
    else node .flow
  let value ←
    if ← accept .value then nodeUnless node [.flowEntry, .flowSequenceEnd] .flow
    else pure (emptyNode {})
  pure (.mapping {} [(key, value)])

def flowItems : Nat → Bool → NodeReader (List Node)
  | 0, _ => failure
  | fuel + 1, first => do
    if ← accept .flowSequenceEnd then pure []
    else do
      if !first then expect .flowEntry
      if ← accept .flowSequenceEnd then pure []
      else do
        let item ← if ← accept .key then singlePair node else node .flow
        pure (item :: (← flowItems fuel false))

def flowEntries : Nat → Bool → NodeReader (List (Node × Node))
  | 0, _ => failure
  | fuel + 1, first => do
    if ← accept .flowMappingEnd then pure []
    else do
      if !first then expect .flowEntry
      if ← accept .flowMappingEnd then pure []
      else do
        let entry ←
          if ← accept .key then do
            let key ← nodeUnless node [.value, .flowEntry, .flowMappingEnd] .flow
            let value ←
              if ← accept .value then nodeUnless node [.flowEntry, .flowMappingEnd] .flow
              else pure (emptyNode {})
            pure (key, value)
          else do pure (← node .flow, emptyNode {})
        pure (entry :: (← flowEntries fuel false))

/-- What follows the properties of a node. Properties alone make an empty node. -/
def content (place : Place) (p : Properties) (fuel : Nat) : NodeReader Node := do
  let block := place != .flow
  match ← peek with
  | .scalar text plain => do skip; pure (.scalar p text plain)
  | .flowSequenceStart => do skip; pure (.sequence p (← flowItems node fuel true))
  | .flowMappingStart => do skip; pure (.mapping p (← flowEntries node fuel true))
  | token =>
    if token == .blockSequenceStart && block then do
      skip; pure (.sequence p (← blockItems node fuel))
    else if token == .blockMappingStart && block then do
      skip; pure (.mapping p (← blockEntries node fuel))
    else if token == .blockEntry && place == .indentless then
      pure (.sequence p (← indentlessItems node fuel))
    else if p.anchor.isSome || p.tag.isSome then pure (emptyNode p)
    else failure

end Collections

def node (shorthands : Shorthands) : Nat → Place → NodeReader Node
  | 0, _ => failure
  | fuel + 1, place => do
    match ← peek with
    | .alias name => do
      skip
      pure (.alias (← StateT.lift ((← get).anchors.lookup name)))
    | _ => do
      let p ← properties shorthands
      content (node shorthands fuel) place p fuel

/-- The directives before a document: at most one version, and one expansion for each handle. -/
def directives : Nat → Bool → Shorthands → NodeReader Shorthands
  | 0, _, _ => failure
  | fuel + 1, versioned, found => do
    match ← peek with
    | .version major minor => do
      if versioned || major ≠ 1 || (minor ≠ 1 && minor ≠ 2) then failure
      skip
      directives fuel true found
    | .tagShorthand handle expansion => do
      if (found.lookup handle).isSome then failure
      skip
      directives fuel versioned (found ++ [(handle, expansion)])
    | _ => pure found

def defaultShorthands : Shorthands :=
  [(['!'], ['!']), (['!', '!'], "tag:yaml.org,2002:".toList)]

def document (fuel : Nat) : NodeReader (Option Node) := do
  if ← accept .streamEnd then pure none
  else do
    let before := (← get).tokens.length
    let found ← directives fuel false []
    let directed := (← get).tokens.length < before
    let explicit ← accept .documentStart
    if directed && !explicit then failure
    let shorthands := found ++ defaultShorthands
    let root ←
      if explicit && (← nextIn [.documentStart, .documentEnd, .streamEnd]) then pure (emptyNode {})
      else node shorthands fuel .block
    dropEnds fuel
    expect .streamEnd
    pure (some root)
where
  dropEnds : Nat → NodeReader Unit
    | 0 => pure ()
    | fuel + 1 => do if ← accept .documentEnd then dropEnds fuel

end NodeReader

def Node.ofTokens? (tokens : List Token) : Option (Option Node) :=
  (NodeReader.document (tokens.length + 1)).run' { tokens }

end PluginHost.Yaml
