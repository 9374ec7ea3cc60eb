import PluginHost.Cache
import PluginHost.Format.Document
import PluginHost.Scan

/-!
Definitions read from files, one in each. Of two files that define the same id the later one in scan
order wins.
-/
namespace PluginHost

structure DocumentParser where
  format : Format
  parse : Path → String → Except PluginError (Option Value)

def DocumentParser.ofFormat (format : Format) : DocumentParser where
  format := format
  parse path content := (format.read content).mapError (.invalidDefinition (some path))

structure DirectoryDiscovery where
  directories : DirectorySet
  scanner : Scanner
  parser : DocumentParser
  cache : DefinitionCache := .null
  idKey : String := "id"

namespace DirectoryDiscovery

/-- What a document amounts to. No document and an object without fields are empty. -/
def entryOf (d : DirectoryDiscovery) (path : Path) (provider : String) :
    Option Value → Except PluginError CacheEntry
  | none | some (.obj []) => pure .empty
  | some document =>
    ((Definition.ofDocument document d.idKey provider path).map .definition).mapError
      (.invalidDefinition (some path))

def content (files : FileTree) (path : Path) : Except PluginError ByteArray :=
  (files.read path).mapError (.unreadable path)

/-- Read a file. Its time is taken before its content, so that a change in between leaves an entry
that is found stale. -/
def load (d : DirectoryDiscovery) (files : FileTree) (path : Path) (provider : String) :
    Except PluginError (CacheEntry × Option Nat) := do
  let modified := files.modified? path
  let bytes ← content files path
  match String.fromUTF8? bytes with
  | none => throw (.invalidDefinition (some path) .notUtf8)
  | some text => do
    let entry ← d.entryOf path provider (← d.parser.parse path text)
    pure (entry, modified)

/-- A kept definition counts only for the provider that it was read for. -/
def fits (provider : String) : CacheEntry → Bool
  | .definition d => d.provider = provider
  | .empty => true

/-- The entry of a scanned file: a hit that fits, or else what the file holds, which is then kept. -/
def entryFor (d : DirectoryDiscovery) (hits : List (Path × CacheEntry)) (f : ScannedFile) :
    Action Workspace CacheEntry := do
  let hit := (hits.find? fun h => h.1.same f.path).map Prod.snd
  match hit.filter (fits f.provider) with
  | some entry => pure entry
  | none => do
    let w ← get
    let (entry, modified) ← d.load w.files f.path f.provider
    match modified with
    | some modified => d.cache.keep f.path modified entry
    | none => Action.log (.cannotStat f.path)
    pure entry

def addEntry {σ : Type} (f : ScannedFile) (entry : CacheEntry) (all : DefinitionMap) :
    Action σ DefinitionMap := do
  match entry with
  | .empty => do
    Action.log (.fileEmpty f.path)
    pure all
  | .definition d => do
    match all.get? d.id with
    | some previous => Action.log (.overriddenByDirectory d.id previous.provider f.provider)
    | none => pure ()
    pure (all.insert d.id d)

def definitions (d : DirectoryDiscovery) : Action Workspace DefinitionMap := do
  let w ← get
  let scanned ← Action.ofTraced (d.scanner.scan w.files d.directories)
  let hits ← d.cache.lookupAll (scanned.map ScannedFile.path)
  let all ← scanned.foldlM (fun all f => do
    let entry ← d.entryFor hits f
    addEntry f entry all) .empty
  Action.log (.discovered all.size)
  pure all

def discovery (d : DirectoryDiscovery) : Discovery Workspace where
  definitions := d.definitions

end DirectoryDiscovery

end PluginHost
