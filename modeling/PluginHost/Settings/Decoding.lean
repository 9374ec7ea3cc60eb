import PluginHost.Settings
import PluginHost.Settings.Tree

/-!
Settings read from a tree. Entries are taken in key order and the first one that does not fit is
reported, with the way that leads to it. What is left out has its default.
-/
namespace PluginHost.Settings

/-- Documents and laid layers are read alike but for surplus list items and for names of choices. -/
inductive Dialect
  | document
  | layered
  deriving DecidableEq

/-- A part of a tree that does not fit. For a field that is not known `path` leads to its record. -/
structure Misfit where
  fault : ShapeFault
  path : List String := []
  origin : Option Origin := none
  deriving DecidableEq

abbrev Decoded := Except Misfit

namespace Decoded

variable {α ρ : Type}

def refuse (t : Tree) (fault : ShapeFault) : Decoded α := throw { fault, origin := t.origin }

def mismatch (t : Tree) (expected : String) : Decoded α := refuse t (.invalidType t.found expected)

def below (step : String) (r : Decoded α) : Decoded α :=
  r.mapError fun m => { m with path := step :: m.path }

def boolean : Tree → Decoded Bool
  | .scalar _ (.bool b) => pure b
  | t => mismatch t "a boolean"

def textAs (expected : String) : Tree → Decoded String
  | .scalar _ (.str s) => pure s
  | .scalar _ (.char c) => pure (String.singleton c)
  | t => mismatch t expected

def text : Tree → Decoded String := textAs "a string"

def path (t : Tree) : Decoded Path := Path.mk <$> textAs "path string" t

def optional (read : Tree → Decoded α) : Tree → Decoded (Option α)
  | .scalar _ .null => pure none
  | t => some <$> read t

def items (read : Tree → Decoded α) : Nat → List Tree → Decoded (List α)
  | _, [] => pure []
  | i, t :: rest => do
    let a ← below (toString i) (read t)
    let more ← items read (i + 1) rest
    pure (a :: more)

def list (read : Tree → Decoded α) : Tree → Decoded (List α)
  | .list _ ts => items read 0 ts
  | t => mismatch t "a sequence"

structure Choice (α : Type) where
  title : String
  known : List String
  ofText? : String → Option α

def named (c : Choice α) (name : String) : Decoded α :=
  match c.ofText? name with
  | some a => pure a
  | none => throw { fault := .unknownVariant name c.known }

/-- A name alone may also be the key of a null. -/
def tagged (c : Choice α) (name : String) (content : Tree) : Decoded α :=
  below name do
    let a ← named c name
    match content with
    | .scalar _ .null => pure a
    | t => mismatch t "unit"

def choice (d : Dialect) (c : Choice α) : Tree → Decoded α
  | .scalar _ (.str name) => named c name
  | .table o entries =>
    match d, entries with
    | .layered, (name, content) :: _ => tagged c name content
    | .layered, [] => mismatch (.table o []) "enum"
    | .document, [(name, content)] => tagged c name content
    | .document, _ => refuse (.table o entries) (.invalidValue .map "map with a single key")
  | t =>
    match d with
    | .layered => mismatch t ("enum " ++ c.title)
    | .document => mismatch t "string or map"

/-- A field of a record: its name, and how its content changes the record read so far. -/
structure Field (ρ : Type) where
  name : String
  set : Tree → ρ → Decoded ρ

def Field.of (name : String) (read : Tree → Decoded α) (put : α → ρ → ρ) : Field ρ :=
  ⟨name, fun t r => do pure (put (← read t) r)⟩

structure RecordShape (ρ : Type) where
  title : String
  fields : List (Field ρ)

def entries (s : RecordShape ρ) : Layer → ρ → Decoded ρ
  | [], r => pure r
  | (key, t) :: rest, r => do
    match s.fields.find? (·.name == key) with
    | some f => entries s rest (← below key (f.set t r))
    | none => refuse t (.unknownField key (s.fields.map Field.name))

/-- Fields in the order of the shape. Those without an item keep their default. -/
def positional : List (Field ρ) → Nat → List Tree → ρ → Decoded ρ
  | f :: fields, i, t :: ts, r => do
    positional fields (i + 1) ts (← below (toString i) (f.set t r))
  | _, _, _, r => pure r

/-- A record is a table of its fields, or a list of them in order. -/
def record (d : Dialect) (s : RecordShape ρ) (start : ρ) : Tree → Decoded ρ
  | .table _ es => entries s es start
  | .list o ts => do
    let r ← positional s.fields 0 ts start
    if d = .document && s.fields.length < ts.length then
      refuse (.list o ts) (.invalidLength ts.length "fewer elements in array")
    else pure r
  | t => mismatch t s.title

end Decoded

open Decoded

def formatChoice : Choice Format :=
  ⟨"DefinitionFormat", Format.all.map Format.name, fun s => Format.all.find? fun f => f.name = s⟩

def strategyChoice : Choice FallbackStrategy :=
  ⟨"FallbackStrategy", FallbackStrategy.all.map FallbackStrategy.name, FallbackStrategy.ofText?⟩

/-- The provider of a directory entry has no default. -/
structure DirectoryDraft where
  provider : Option String := none
  paths : List Path := []

def directoryShape : RecordShape DirectoryDraft where
  title := "struct DirectoryConfig"
  fields :=
    [.of "provider" text fun s r => { r with provider := some s },
     .of "paths" (list path) fun ps r => { r with paths := ps }]

def directory (d : Dialect) (t : Tree) : Decoded DirectorySettings := do
  let r ← record d directoryShape {} t
  match r.provider, t with
  | some provider, _ => pure { provider, paths := r.paths }
  | none, .list _ ts =>
    refuse t <| .invalidLength ts.length
      s!"{directoryShape.title} with {directoryShape.fields.length} elements"
  | none, _ => refuse t (.missingField "provider")

def discoveryShape (d : Dialect) : RecordShape DiscoverySettings where
  title := "struct DiscoveryConfig"
  fields :=
    [.of "format" (choice d formatChoice) fun f r => { r with format := f },
     .of "file_suffix" (optional text) fun s r => { r with fileSuffix := s },
     .of "id_key" text fun s r => { r with idKey := s },
     .of "exclude_pattern" (optional text) fun s r => { r with excludePattern := s },
     .of "directories" (list (directory d)) fun ds r => { r with directories := ds }]

def cacheShape : RecordShape CacheSettings where
  title := "struct CacheConfig"
  fields :=
    [.of "enabled" boolean fun b r => { r with enabled := b },
     .of "key_suffix" text fun s r => { r with keySuffix := s }]

def managerShape (d : Dialect) : RecordShape ManagerSettings where
  title := "struct ManagerConfig"
  fields :=
    [.of "fallback_strategy" (choice d strategyChoice) fun s r => { r with fallbackStrategy := s },
     .of "fallback_plugin" (optional text) fun s r => { r with fallbackPlugin := s },
     .of "fallback_provider" (optional text) fun s r => { r with fallbackProvider := s },
     .of "installed_providers" (optional (list text)) fun ps r =>
       { r with installedProviders := ps }]

def loggingShape : RecordShape LoggingSettings where
  title := "struct LoggingConfig"
  fields := [.of "level" text fun s r => { r with level := s }]

def shape (d : Dialect) : RecordShape Settings where
  title := "struct TrellisConfig"
  fields :=
    [.of "discovery" (record d (discoveryShape d) {}) fun x r => { r with discovery := x },
     .of "cache" (record d cacheShape {}) fun x r => { r with cache := x },
     .of "manager" (record d (managerShape d) {}) fun x r => { r with manager := x },
     .of "logging" (record d loggingShape {}) fun x r => { r with logging := x }]

def decode (d : Dialect) (t : Tree) : Decoded Settings := record d (shape d) {} t

def ofValue (v : Value) : Except ShapeFault Settings :=
  (decode .document (.ofValue v)).mapError Misfit.fault

end PluginHost.Settings
