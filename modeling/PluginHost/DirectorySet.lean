import PluginHost.Path

/-!
Providers and the directories they contribute, in order of precedence: what comes later wins.
-/
namespace PluginHost

structure DirectorySet where
  entries : List (String × List Path) := []
  deriving DecidableEq, Inhabited

namespace DirectorySet

/-- Append a path to the provider's entry; a provider without one gets it at the end. -/
def addTo (provider : String) (path : Path) : List (String × List Path) → List (String × List Path)
  | [] => [(provider, [path])]
  | (name, paths) :: rest =>
    if name = provider then (name, paths ++ [path]) :: rest
    else (name, paths) :: addTo provider path rest

def add (set : DirectorySet) (provider : String) (path : Path) : DirectorySet :=
  ⟨addTo provider path set.entries⟩

def ofList (pairs : List (String × Path)) : DirectorySet :=
  pairs.foldl (fun set p => set.add p.1 p.2) {}

def providers (set : DirectorySet) : List String := set.entries.map Prod.fst

def positions (set : DirectorySet) : List (String × Path) :=
  set.entries.flatMap fun e => e.2.map fun path => (e.1, path)

def size (set : DirectorySet) : Nat := set.entries.length

def isEmpty (set : DirectorySet) : Bool := set.entries.isEmpty

/-- Same providers in the same order, with paths that agree component by component. -/
def same (a b : DirectorySet) : Bool :=
  a.entries.map (fun e => (e.1, e.2.map Path.components)) ==
    b.entries.map (fun e => (e.1, e.2.map Path.components))

end DirectorySet

end PluginHost
