import PluginHost.DirectorySet
import PluginHost.Event
import PluginHost.FileTree
import PluginHost.Pattern.Reading

/-!
Which files below the directories of a set have a suffix. Directories are walked depth first, their
entries by name; links below a directory are neither followed nor collected, and what cannot be read
is passed over. Of equal paths the last stays, and paths in which the exclude pattern is found are
dropped in the end.
-/
namespace PluginHost

namespace FileNode

mutual

/-- Paths of the regular files below a directory whose names are in UTF-8 and end with a suffix, in
walk order. -/
def filesBelow (suffix : String) (path : Path) : FileNode → List Path
  | .directory info entries =>
    if info.listable then filesAmong suffix path info.searchable entries else []
  | _ => []

/-- What lies below an entry is only come to if the directory may be entered. -/
def filesAmong (suffix : String) (path : Path) (enter : Bool) :
    List (OsText × FileNode) → List Path
  | [] => []
  | (name, node) :: rest =>
    let here := if node.isFile && name.hasSuffix suffix then [path.child name] else []
    let below := if enter then node.filesBelow suffix (path.child name) else []
    here ++ below ++ filesAmong suffix path enter rest

end

mutual

/-- Paths of the directories whose entries a walk cannot see. -/
def unlistedBelow (path : Path) : FileNode → List Path
  | .directory info entries =>
    if info.listable then unlistedAmong path info.searchable entries else [path]
  | _ => []

def unlistedAmong (path : Path) (enter : Bool) : List (OsText × FileNode) → List Path
  | [] => []
  | (name, node) :: rest =>
    let here :=
      if enter then node.unlistedBelow (path.child name)
      else if node.isDirectory then [path.child name] else []
    here ++ unlistedAmong path enter rest

end

end FileNode

structure Exclusion where
  source : String
  pattern : Pattern

def Exclusion.ofText (text : String) : Except PatternFault Exclusion := do
  pure ⟨text, ← Pattern.ofText text⟩

structure Scanner where
  suffix : String
  exclude : Option Exclusion := none

structure ScannedFile where
  path : Path
  provider : String
  deriving DecidableEq

abbrev ScanResult := List ScannedFile

namespace ScanResult

def provider? (files : ScanResult) (path : Path) : Option String :=
  (files.find? fun f => f.path.same path).map ScannedFile.provider

def keepLast : ScanResult → ScanResult
  | [] => []
  | f :: rest =>
    if rest.any fun g => g.path.same f.path then keepLast rest else f :: keepLast rest

end ScanResult

namespace Scanner

def scanDirectory (s : Scanner) (files : FileTree) (provider : String) (dir : Path) :
    Traced ScanResult :=
  match (files.node? dir).filter FileNode.isDirectory with
  | some node => do
    (node.unlistedBelow dir).forM fun path =>
      Traced.log (.entryUnreadable provider dir path .denied)
    pure ((node.filesBelow s.suffix dir).map fun path => ⟨path, provider⟩)
  | none => do
    Traced.log (.directoryMissing provider dir)
    pure []

def scanAll (s : Scanner) (files : FileTree) : List (String × Path) → Traced ScanResult
  | [] => pure []
  | (provider, dir) :: rest => do
    let here ← s.scanDirectory files provider dir
    pure (here ++ (← s.scanAll files rest))

def applyExclude (s : Scanner) (found : ScanResult) : Traced ScanResult :=
  match s.exclude with
  | none => pure found
  | some exclude => do
    let kept := found.filter fun f => !exclude.pattern.foundIn f.path.text
    Traced.log (.excludeApplied exclude.source (found.length - kept.length))
    pure kept

def scan (s : Scanner) (files : FileTree) (directories : DirectorySet) : Traced ScanResult := do
  let found ← s.scanAll files directories.positions
  let result ← s.applyExclude found.keepLast
  Traced.log (.scanComplete result.length s.suffix)
  pure result

end Scanner

end PluginHost
