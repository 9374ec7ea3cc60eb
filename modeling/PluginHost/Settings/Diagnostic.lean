import PluginHost.Error
import PluginHost.Settings.Decoding
import PluginHost.Settings.KeyLocation
import PluginHost.Settings.Violation
import PluginHost.Text.Similarity

/-!
What is told about settings that cannot be used: a message, a code, perhaps advice, and for a key
that is not known the place of that key in the text it was read from.
-/
namespace PluginHost.Settings

structure SourceText where
  name : String
  content : String

/-- Part of a named text; offset and length count bytes. -/
structure Span where
  source : String
  offset : Nat
  length : Nat
  deriving DecidableEq

inductive Diagnostic
  | unknownKey (key : String) (suggestion : Option String) (validKeys : String) (span : Option Span)
  | invalidType (key detail expected : String)
  | unknownVariant (key value : String) (suggestion : Option String) (validValues : String)
  | missingKey (key : String)
  | validation (message : String)
  | other (message : String)
  deriving DecidableEq

namespace Diagnostic

def message : Diagnostic → String
  | unknownKey key _ _ _ => s!"unknown configuration key `{key}`"
  | invalidType key detail _ => s!"invalid type for key `{key}`: {detail}"
  | unknownVariant key value _ _ => s!"unknown value `{value}` for `{key}`"
  | missingKey key => s!"missing required key `{key}`"
  | validation message => s!"validation error: {message}"
  | other message => s!"configuration error: {message}"

def code (d : Diagnostic) : String :=
  "trellis::config::" ++ match d with
    | unknownKey .. => "unknown_key"
    | invalidType .. => "invalid_type"
    | unknownVariant .. => "unknown_variant"
    | missingKey .. => "missing_key"
    | validation .. => "validation"
    | other .. => "other"

def adviceOn (suggestion : Option String) (valid : String) : String :=
  match suggestion with
  | some s => s!"did you mean `{s}`? Valid keys: {valid}"
  | none => s!"valid keys: {valid}"

def help : Diagnostic → Option String
  | unknownKey _ suggestion valid _ => some (adviceOn suggestion valid)
  | unknownVariant _ _ suggestion valid => some (adviceOn suggestion valid)
  | invalidType _ _ expected => some s!"expected {expected}"
  | missingKey key => some s!"add `{key} = <value>` to your trellis.toml"
  | validation _ => none
  | other _ => none

def toPluginError (d : Diagnostic) : PluginError := .settings (.other d.message)

def ofViolation (v : Violation) : Diagnostic := .validation v.message

end Diagnostic

namespace Origin

/-- Where a layer was read, at the end of a message; files are named as seen from `here`. -/
def describe (here : Path) : Origin → String
  | text => "in TOML source string"
  | file path => s!"in {path.seenFrom here} TOML file"
  | environment => "in `TRELLIS_` environment variable(s)"

def keyText (path : List String) : Origin → String
  | environment => String.ofList ((".".intercalate path).toList.map Char.toUpper)
  | _ => ".".intercalate ("default" :: path)

end Origin

namespace Misfit

/-- The text in which the key of this misfit is looked for: the file it comes from, or else the only
text there is. -/
def source? (m : Misfit) (sources : List SourceText) : Option SourceText :=
  match m.origin, sources with
  | some (.file path), _ => sources.find? (·.name == path.text)
  | _, [source] => some source
  | _, _ => none

def span? (m : Misfit) (key : String) (sources : List SourceText) : Option Span := do
  let source ← m.source? sources
  let offset ← keyOffset? source.content m.path key
  pure { source := source.name, offset, length := key.utf8ByteSize }

def fullText (here : Path) (m : Misfit) : String :=
  let text := m.fault.messageWith Found.inLayer
  match m.origin with
  | none => text
  | some o =>
    let key := if m.path.isEmpty then "" else s!" for key {Text.quoted (o.keyText m.path)}"
    s!"{text}{key} {o.describe here}"

def diagnostic (here : Path) (sources : List SourceText) (m : Misfit) : Diagnostic :=
  let key := ".".intercalate m.path
  match m.fault with
  | .unknownField name known =>
    .unknownKey name (Text.suggest name known) (", ".intercalate known) (m.span? name sources)
  | .unknownVariant name known =>
    .unknownVariant key name (Text.suggest name known) (", ".intercalate known)
  | .missingField name => .missingKey name
  | .invalidType found expected =>
    .invalidType key s!"found {found.inLayer}, expected {expected}" expected
  | _ => .other (m.fullText here)

end Misfit

end PluginHost.Settings
