import PluginHost.Error
import PluginHost.Settings.Diagnostic
import PluginHost.Settings.Environment
import PluginHost.Toml.Document

/-!
Settings from where a host keeps them: defaults, a file of the machine, a file of the user, a file
near the working directory and the environment, each laid over the ones before it.
-/
namespace PluginHost.Settings

inductive LayerFault
  | unreadable (path : Path) (fault : ReadFault)
  | notToml
  deriving DecidableEq

/-- Why no settings come of the layers: some could not be read, or what they hold does not fit. -/
inductive LoadFault
  | unreadable (faults : List LayerFault)
  | misfit (m : Misfit)

def systemPath : Path := ⟨"/etc/trellis/trellis.toml"⟩

def localName : Path := ⟨"trellis.toml"⟩

/-- The home directory of the user. Where the variable is unset or empty it is that of the account, as
far as the host knows one. -/
def home (env : Environment) (account : Option Path) : Option Path :=
  match env.get? "HOME" with
  | none | some "" => account
  | some text => some ⟨text⟩

/-- The directory of the user's settings: a configured one if it is absolute, else one at home. -/
def userDirectory (env : Environment) (account : Option Path) : Option Path :=
  match env.get? "XDG_CONFIG_HOME" with
  | some text => if (Path.mk text).isAbsolute then some ⟨text⟩ else atHome
  | none => atHome
where
  atHome : Option Path := (home env account).map (·.join ⟨".config"⟩)

def userPath (env : Environment) (account : Option Path := none) : Option Path :=
  (userDirectory env account).map (·.join ⟨"trellis/trellis.toml"⟩)

def upward : Nat → Location → List Location
  | 0, location => [location]
  | n + 1, location => location :: upward n location.dropLast

/-- The file that a path means: a relative path is tried in the working directory and in each
directory above it. -/
def locate? (files : FileTree) (p : Path) : Option Path :=
  if p.isAbsolute then if files.isFile p then some p else none
  else
    let tries := (upward files.here.length files.here).map fun l => (FileTree.pathOf l).join p
    tries.find? files.isFile

def layerOf (origin : Origin) (toml : String) : Except LayerFault Layer :=
  match (Toml.read toml.toList).bind (Tree.ofEntries? origin) with
  | some layer => pure layer
  | none => throw .notToml

def fileText (files : FileTree) (p : Path) : Except ReadFault String := do
  match String.fromUTF8? (← files.read p) with
  | some text => pure text
  | none => throw (.other "stream did not contain valid UTF-8")

def fileText? (files : FileTree) (p : Path) : Option String := (fileText files p).toOption

/-- A path that means no file gives a layer without entries. -/
def fileLayer (files : FileTree) (p : Path) : Except LayerFault Layer :=
  match locate? files p with
  | none => pure []
  | some path =>
    match fileText files path with
    | .error fault => throw (.unreadable path fault)
    | .ok content => layerOf (.file path) content

def defaultLayer : Layer :=
  match ({} : Settings).toValue with
  | .ok (.obj fields) => Tree.ofFields fields
  | _ => []

/-- The layers laid one over the other, or what is wrong with them, the last one first. -/
def layAll : List (Except LayerFault Layer) → Except (List LayerFault) Layer :=
  List.foldl add (pure defaultLayer)
where
  add : Except (List LayerFault) Layer → Except LayerFault Layer → Except (List LayerFault) Layer
    | .ok lower, .ok upper => .ok (Tree.layEntries lower upper)
    | .error faults, .ok _ => .error faults
    | .ok _, .error fault => .error [fault]
    | .error faults, .error fault => .error (fault :: faults)

def ofLayers (layers : List (Except LayerFault Layer)) : Except LoadFault Settings := do
  let entries ← (layAll layers).mapError .unreadable
  (decode .layered (.table none entries)).mapError .misfit

def ofText (toml : String) : Except LoadFault Settings := ofLayers [layerOf .text toml]

def ofFile (files : FileTree) (env : Environment) (p : Path) : Except LoadFault Settings :=
  ofLayers [fileLayer files p, pure env.layer]

/-- Without a path for the user's file the empty one stands in, which means no file. -/
def userLayer (files : FileTree) (env : Environment) (account : Option Path) :
    Except LayerFault Layer :=
  fileLayer files ((userPath env account).getD ⟨""⟩)

def ofHost (files : FileTree) (env : Environment) (account : Option Path := none) :
    Except LoadFault Settings :=
  ofLayers
    [fileLayer files systemPath, userLayer files env account, fileLayer files localName,
     pure env.layer]

/-- The texts in which keys are looked for: the file in the working directory, that of the user and
that of the machine. -/
def hostSources (files : FileTree) (env : Environment) (account : Option Path) : List SourceText :=
  let source (p name : Path) : Option SourceText := (fileText? files p).map (⟨name.text, ·⟩)
  (source localName ((FileTree.pathOf files.here).join localName)).toList ++
    ((userPath env account).bind fun p => source p p).toList ++
    (source systemPath systemPath).toList

def LayerFault.diagnostic (here : Path) : LayerFault → Diagnostic
  | notToml => .other "TOML parse error"
  | unreadable path fault => .other s!"{fault.message}\n {(Origin.file path).describe here}"

def LoadFault.diagnostics (here : Path) (sources : List SourceText) : LoadFault → List Diagnostic
  | unreadable faults => faults.map (LayerFault.diagnostic here)
  | misfit m => [m.diagnostic here sources]

def validate (s : Settings) : Except (List Diagnostic) Settings :=
  match s.violations with
  | [] => pure s
  | vs => throw (vs.map Diagnostic.ofViolation)

def load (toml : String) : Except (List Diagnostic) Settings := do
  let source := { name := "<inline>", content := toml }
  let s ← (ofText toml).mapError (LoadFault.diagnostics ⟨"/"⟩ [source])
  validate s

def loadHost (files : FileTree) (env : Environment) (account : Option Path := none) :
    Except (List Diagnostic) Settings := do
  let here := FileTree.pathOf files.here
  let sources := hostSources files env account
  let s ← (ofHost files env account).mapError (LoadFault.diagnostics here sources)
  validate s

end PluginHost.Settings
