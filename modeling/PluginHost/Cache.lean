import PluginHost.Discovery
import PluginHost.FileTree

/-!
Entries kept for definition files. An entry stands under a namespace and the resolved path of its
file, together with the file's time; once the file has another time the entry is dropped.
-/
namespace PluginHost

inductive CacheEntry
  | definition (d : Definition)
  | empty
  deriving Inhabited

structure StoredEntry where
  modified : Nat
  entry : CacheEntry
  deriving Inhabited

abbrev CacheStore := KeyedMap StoredEntry

@[ext]
structure Workspace where
  files : FileTree
  store : CacheStore := .empty

structure DefinitionCache where
  lookup : Path → Step Workspace (Option CacheEntry)
  /-- Keep an entry for a file that had this time when it was read. -/
  keep : Path → Nat → CacheEntry → Step Workspace Unit
  forget : Path → Step Workspace Unit

namespace DefinitionCache

/-- Put an entry under a path; a path that is there already keeps its spelling. -/
def addHit (path : Path) (entry : CacheEntry) :
    List (Path × CacheEntry) → List (Path × CacheEntry)
  | [] => [(path, entry)]
  | (p, e) :: rest =>
    if p.same path then (p, entry) :: rest else (p, e) :: addHit path entry rest

def lookupAll (cache : DefinitionCache) (paths : List Path) :
    Step Workspace (List (Path × CacheEntry)) :=
  paths.foldlM (fun hits path => do
    match ← cache.lookup path with
    | some entry => pure (addHit path entry hits)
    | none => pure hits) []

def null : DefinitionCache where
  lookup _ := pure none
  keep _ _ _ := pure ()
  forget _ := pure ()

def keyStart : String := "trellis_definitions"

def namespaceOf (suffix : String) : String := s!"{keyStart}:{suffix}"

/-- The key of a file. A path that leads nowhere stands for itself. -/
def keyOf (suffix : String) (files : FileTree) (path : Path) : String :=
  s!"{namespaceOf suffix}:{((files.canonical path).getD path).text}"

/-- Look into the store. An entry with another time than the file's is dropped. -/
def lookupStored (suffix : String) (path : Path) : Step Workspace (Option CacheEntry) := do
  let w ← get
  let key := keyOf suffix w.files path
  match w.store.get? key with
  | none => pure none
  | some stored =>
    if w.files.modified? path = some stored.modified then pure (some stored.entry)
    else do
      Step.log (.entryStale path)
      set { w with store := w.store.erase key }
      pure none

def file (suffix : String) : DefinitionCache where
  lookup := lookupStored suffix
  keep path modified entry := modify fun w =>
    { w with store := w.store.insert (keyOf suffix w.files path) { modified, entry } }
  forget path := modify fun w => { w with store := w.store.erase (keyOf suffix w.files path) }

def ofSettings (enabled : Bool) (suffix : String) : DefinitionCache :=
  if enabled then file suffix else null

end DefinitionCache

end PluginHost
