import PluginHost.Proofs.Settings.Layering
import PluginHost.Proofs.Settings.Record
import PluginHost.Settings.Hierarchy

/-!
The sections of the settings and the fields of each. Settings are read from a layer whose sections are
tables field by field, each from what the layer gives for its section and key.
-/
namespace PluginHost.Settings

open Decoded
open Keyed (Ordered)

def discoverySlots (d : Dialect) : List (Slot DiscoverySettings) :=
  [⟨Format, "format", choice d formatChoice, (·.format), fun f r => { r with format := f }⟩,
   ⟨Option String, "file_suffix", optional text, (·.fileSuffix),
     fun s r => { r with fileSuffix := s }⟩,
   ⟨String, "id_key", text, (·.idKey), fun s r => { r with idKey := s }⟩,
   ⟨Option String, "exclude_pattern", optional text, (·.excludePattern),
     fun s r => { r with excludePattern := s }⟩,
   ⟨List DirectorySettings, "directories", list (directory d), (·.directories),
     fun ds r => { r with directories := ds }⟩]

def cacheSlots : List (Slot CacheSettings) :=
  [⟨Bool, "enabled", boolean, (·.enabled), fun b r => { r with enabled := b }⟩,
   ⟨String, "key_suffix", text, (·.keySuffix), fun s r => { r with keySuffix := s }⟩]

def managerSlots (d : Dialect) : List (Slot ManagerSettings) :=
  [⟨FallbackStrategy, "fallback_strategy", choice d strategyChoice, (·.fallbackStrategy),
     fun s r => { r with fallbackStrategy := s }⟩,
   ⟨Option String, "fallback_plugin", optional text, (·.fallbackPlugin),
     fun s r => { r with fallbackPlugin := s }⟩,
   ⟨Option String, "fallback_provider", optional text, (·.fallbackProvider),
     fun s r => { r with fallbackProvider := s }⟩,
   ⟨Option (List String), "installed_providers", optional (list text), (·.installedProviders),
     fun ps r => { r with installedProviders := ps }⟩]

def loggingSlots : List (Slot LoggingSettings) :=
  [⟨String, "level", text, (·.level), fun s r => { r with level := s }⟩]

/-- A section: the record that it holds, how that is read, and where it lies in the settings. -/
structure Section : Type 1 where
  Content : Type
  name : String
  shape : Dialect → RecordShape Content
  slots : Dialect → List (Slot Content)
  start : Content
  get : Settings → Content
  put : Content → Settings → Settings
  laid : ∀ d, Laid (shape d) (slots d)

def discoverySection : Section where
  Content := DiscoverySettings
  name := "discovery"
  shape := discoveryShape
  slots := discoverySlots
  start := {}
  get := Settings.discovery
  put x s := { s with discovery := x }
  laid d :=
    { fields := rfl
      names := by simp [discoverySlots]
      own := by simp [discoverySlots]
      others := by simp [discoverySlots]
      whole := by
        rintro ⟨⟩ ⟨⟩ h
        simpa [discoverySlots] using h }

def cacheSection : Section where
  Content := CacheSettings
  name := "cache"
  shape _ := cacheShape
  slots _ := cacheSlots
  start := {}
  get := Settings.cache
  put x s := { s with cache := x }
  laid d :=
    { fields := rfl
      names := by simp [cacheSlots]
      own := by simp [cacheSlots]
      others := by simp [cacheSlots]
      whole := by
        rintro ⟨⟩ ⟨⟩ h
        simpa [cacheSlots] using h }

def managerSection : Section where
  Content := ManagerSettings
  name := "manager"
  shape := managerShape
  slots := managerSlots
  start := {}
  get := Settings.manager
  put x s := { s with manager := x }
  laid d :=
    { fields := rfl
      names := by simp [managerSlots]
      own := by simp [managerSlots]
      others := by simp [managerSlots]
      whole := by
        rintro ⟨⟩ ⟨⟩ h
        simpa [managerSlots] using h }

def loggingSection : Section where
  Content := LoggingSettings
  name := "logging"
  shape _ := loggingShape
  slots _ := loggingSlots
  start := {}
  get := Settings.logging
  put x s := { s with logging := x }
  laid d :=
    { fields := rfl
      names := by simp [loggingSlots]
      own := by simp [loggingSlots]
      others := by simp [loggingSlots]
      whole := by
        rintro ⟨⟩ ⟨⟩ h
        simpa [loggingSlots] using h }

namespace Section

def all : List Section := [discoverySection, cacheSection, managerSection, loggingSection]

theorem forall_mem_all {P : Section → Prop} :
    (∀ c ∈ all, P c) ↔ P discoverySection ∧ P cacheSection ∧ P managerSection ∧ P loggingSection := by
  simp [all]

def slot (c : Section) (d : Dialect) : Slot Settings :=
  ⟨c.Content, c.name, record d (c.shape d) c.start, c.get, c.put⟩

theorem laid_all (d : Dialect) : Laid (Settings.shape d) (all.map (·.slot d)) where
  fields := rfl
  names := by
    simp [all, slot, discoverySection, cacheSection, managerSection, loggingSection]
  own := by
    simp [all, slot, discoverySection, cacheSection, managerSection, loggingSection]
  others := by
    simp [all, slot, discoverySection, cacheSection, managerSection, loggingSection]
  whole := by
    rintro ⟨⟩ ⟨⟩ h
    simpa [all, slot, discoverySection, cacheSection, managerSection, loggingSection] using h

theorem get_default : ∀ c ∈ all, c.get {} = c.start :=
  forall_mem_all.2 ⟨rfl, rfl, rfl, rfl⟩

theorem shows_iff {c : Section} (hc : c ∈ all) {d : Dialect} {layer : Layer} {s : Settings}
    (htable : TableAt layer c.name) (hordered : Ordered (sectionOf layer c.name)) :
    (c.slot d).Shows {} (Keyed.get? c.name layer) s ↔
      (∀ key ∈ (sectionOf layer c.name).map Prod.fst, ∃ p ∈ c.slots d, p.name = key) ∧
        ∀ p ∈ c.slots d, p.Shows c.start (given? layer c.name p.name) (c.get s) := by
  refine Iff.trans ?_ ((c.laid d).entries_eq_ok_iff hordered)
  rcases htable.cases with hnone | ⟨o, entries, htable⟩
  · rw [hnone, sectionOf_of_none hnone]
    have hstart : Decoded.entries (c.shape d) [] c.start = .ok c.start := by
      rw [Decoded.entries]
      rfl
    rw [hstart, Except.ok.injEq, eq_comm, ← get_default c hc]
    exact Iff.rfl
  · rw [htable, sectionOf_of_table htable]
    exact Iff.rfl

end Section

/-- A layer that gives sections as tables and lists their keys and its own in order. -/
structure Sectioned (layer : Layer) : Prop where
  ordered : Ordered layer
  table : ∀ c ∈ Section.all, TableAt layer c.name
  keys : ∀ c ∈ Section.all, Ordered (sectionOf layer c.name)

theorem Sectioned.decode_eq_ok_iff {layer : Layer} (h : Sectioned layer) {d : Dialect}
    {o : Option Origin} {s : Settings} :
    decode d (.table o layer) = .ok s ↔
      (∀ name ∈ layer.map Prod.fst, ∃ c ∈ Section.all, c.name = name) ∧
        ∀ c ∈ Section.all,
          (∀ key ∈ (sectionOf layer c.name).map Prod.fst, ∃ p ∈ c.slots d, p.name = key) ∧
            ∀ p ∈ c.slots d, p.Shows c.start (given? layer c.name p.name) (c.get s) := by
  have hdecode : decode d (.table o layer) = entries (shape d) layer {} := rfl
  rw [hdecode, (Section.laid_all d).entries_eq_ok_iff h.ordered]
  refine and_congr (forall₂_congr fun name _ => ?_) (List.forall_mem_map.trans ?_)
  · constructor
    · rintro ⟨p, hp, rfl⟩
      obtain ⟨c, hc, rfl⟩ := List.mem_map.1 hp
      exact ⟨c, hc, rfl⟩
    · rintro ⟨c, hc, rfl⟩
      exact ⟨_, List.mem_map_of_mem hc, rfl⟩
  · exact forall₂_congr fun c hc => Section.shows_iff hc (h.table c hc) (h.keys c hc)

namespace Sectioned

variable {lower upper : Layer}

theorem sectionOf_layEntries (hlower : Sectioned lower) (hupper : Sectioned upper) {c : Section}
    (hc : c ∈ Section.all) :
    sectionOf (Tree.layEntries lower upper) c.name =
      Tree.layEntries (sectionOf lower c.name) (sectionOf upper c.name) :=
  Settings.sectionOf_layEntries hupper.ordered (hupper.keys c hc) (hlower.table c hc)
    (hupper.table c hc)

theorem given?_layEntries (hlower : Sectioned lower) (hupper : Sectioned upper) {c : Section}
    (hc : c ∈ Section.all) (key : String) :
    given? (Tree.layEntries lower upper) c.name key =
      Tree.laid? (given? lower c.name key) (given? upper c.name key) :=
  Settings.given?_layEntries hupper.ordered (hupper.keys c hc) (hlower.table c hc)
    (hupper.table c hc) key

theorem layEntries (hlower : Sectioned lower) (hupper : Sectioned upper) :
    Sectioned (Tree.layEntries lower upper) where
  ordered := Tree.ordered_layEntries hlower.ordered
  table c hc := (hlower.table c hc).layEntries hupper.ordered (hupper.table c hc)
  keys c hc := by
    rw [hlower.sectionOf_layEntries hupper hc]
    exact Tree.ordered_layEntries (hlower.keys c hc)

end Sectioned

end PluginHost.Settings
