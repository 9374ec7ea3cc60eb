import PluginHost.Error

/-!
The log. Computations that log return a `Traced` value: the value and the events in order.
-/
namespace PluginHost

inductive Level
  | debug
  | info
  | warn
  deriving DecidableEq

inductive Event
  | directoryMissing (provider : String) (dir : Path)
  | entryUnreadable (provider : String) (dir path : Path) (fault : ReadFault)
  | excludeApplied (pattern : String) (excluded : Nat)
  | scanComplete (files : Nat) (suffix : String)
  | entryStale (path : Path)
  | cannotStat (path : Path)
  | fileEmpty (path : Path)
  | overriddenByDirectory (id overridden replacement : String)
  | discovered (count : Nat)
  | memoCleared
  | providerNotInstalled (id provider : String)
  | processed (count : Nat)
  | overriddenByDerivative (id overridden replacement : String)
  | constructorReplaced (className : String)
  | creating (id className : String)
  | usingFallback (requested fallback : String)
  deriving DecidableEq

inductive EventField
  | text (s : String)
  | count (n : Nat)
  deriving DecidableEq

namespace Event

def level : Event → Level
  | processed _ => .info
  | usingFallback _ _ | entryUnreadable _ _ _ _ => .warn
  | _ => .debug

def message : Event → String
  | directoryMissing _ _ => "definition directory does not exist, skipping"
  | entryUnreadable _ _ _ _ => "cannot read entry, skipping"
  | excludeApplied _ _ => "applied exclude pattern"
  | scanComplete _ _ => "definition scan complete"
  | entryStale _ => "definition cache entry is stale, evicting"
  | cannotStat _ => "cannot stat definition file, not caching"
  | fileEmpty _ => "definition file is empty, skipping"
  | overriddenByDirectory _ _ _ => "definition overridden by later directory"
  | discovered _ => "discovered definitions"
  | memoCleared => "cleared memoized definitions"
  | providerNotInstalled _ _ => "provider not installed, dropping definition"
  | processed _ => "processed plugin definitions"
  | overriddenByDerivative _ _ _ => "definition overridden by derivative expansion"
  | constructorReplaced _ => "constructor replaced"
  | creating _ _ => "creating plugin instance"
  | usingFallback _ _ => "plugin not found, using fallback"

def fields : Event → List (String × EventField)
  | directoryMissing provider dir => [("provider", .text provider), ("dir", .text dir.text)]
  | entryUnreadable provider dir path fault =>
    [("provider", .text provider), ("dir", .text dir.text),
     ("error", .text s!"IO error for operation on {path.text}: {fault.message}")]
  | excludeApplied pattern excluded => [("pattern", .text pattern), ("excluded", .count excluded)]
  | scanComplete files suffix => [("files", .count files), ("suffix", .text suffix)]
  | entryStale path | cannotStat path | fileEmpty path => [("path", .text path.text)]
  | overriddenByDirectory id overridden replacement | overriddenByDerivative id overridden replacement =>
    [("plugin_id", .text id), ("overridden", .text overridden), ("by", .text replacement)]
  | discovered count | processed count => [("count", .count count)]
  | memoCleared => []
  | providerNotInstalled id provider => [("plugin_id", .text id), ("provider", .text provider)]
  | constructorReplaced className => [("class", .text className)]
  | creating id className => [("plugin_id", .text id), ("class", .text className)]
  | usingFallback requested fallback =>
    [("requested", .text requested), ("fallback", .text fallback)]

end Event

def Level.name : Level → String
  | debug => "debug"
  | info => "info"
  | warn => "warn"

structure Traced (α : Type) where
  value : α
  events : List Event := []

namespace Traced

def log (event : Event) : Traced Unit := ⟨(), [event]⟩

instance : Monad Traced where
  pure a := ⟨a, []⟩
  bind t f := ⟨(f t.value).value, t.events ++ (f t.value).events⟩

@[simp] theorem value_pure {α : Type} (a : α) : (pure a : Traced α).value = a := rfl

@[simp] theorem events_pure {α : Type} (a : α) : (pure a : Traced α).events = [] := rfl

@[simp] theorem value_bind {α β : Type} (t : Traced α) (f : α → Traced β) :
    (t >>= f).value = (f t.value).value := rfl

@[simp] theorem events_bind {α β : Type} (t : Traced α) (f : α → Traced β) :
    (t >>= f).events = t.events ++ (f t.value).events := rfl

end Traced

end PluginHost
