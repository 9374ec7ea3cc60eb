import PluginHost.Proofs.Settings.RoundTrip

/-!
Keys that no record has. A document that is read as settings is refused once such a key is added to it:
beside its sections, in one of them or in an entry of its directories.
-/
namespace PluginHost.Settings

open Decoded

/-! Changes to one place of a document. -/

/-- One entry more in an object, under `key`, anywhere among the others. -/
inductive Added (key : String) : Value → Value → Prop
  | intro (before after : List (String × Value)) (x : Value) :
      Added key (.obj (before ++ after)) (.obj (before ++ (key, x) :: after))

inductive Under (name : String) (change : Value → Value → Prop) : Value → Value → Prop
  | intro (before after : List (String × Value)) {x x' : Value} (h : change x x') :
      Under name change (.obj (before ++ (name, x) :: after)) (.obj (before ++ (name, x') :: after))

inductive AtItem (change : Value → Value → Prop) : Value → Value → Prop
  | intro (before after : List Value) {x x' : Value} (h : change x x') :
      AtItem change (.arr (before ++ x :: after)) (.arr (before ++ x' :: after))

inductive AtIndex (n : Nat) (change : Value → Value → Prop) : Value → Value → Prop
  | intro (before after : List Value) {x x' : Value} (hlength : before.length = n)
      (h : change x x') :
      AtIndex n change (.arr (before ++ x :: after)) (.arr (before ++ x' :: after))

theorem added_insert {key : String} {fields : List (String × Value)}
    (h : key ∉ fields.map Prod.fst) (x : Value) :
    Added key (.obj fields) (.obj (Keyed.insert key x fields)) := by
  obtain ⟨before, after, hfields, hinsert⟩ := Keyed.exists_insert_eq_append h
  rw [hinsert, hfields]
  exact .intro before after x

namespace Decoded

variable {α β ρ : Type} {fault : ShapeFault}

/-! Readings that fail. -/

/-- Reading ends with this fault, at whatever place. -/
def Fails (fault : ShapeFault) (r : Decoded α) : Prop := r.mapError Misfit.fault = .error fault

theorem fails_refuse (t : Tree) (fault : ShapeFault) :
    Fails fault (refuse t fault : Decoded α) := rfl

theorem Fails.below {r : Decoded α} (h : Fails fault r) (step : String) :
    Fails fault (below step r) := by
  cases r with
  | ok a => cases h
  | error m => exact h

theorem Fails.bind {r : Decoded α} (h : Fails fault r) (f : α → Decoded β) :
    Fails fault (r >>= f) := by
  cases r with
  | ok a => cases h
  | error m => exact congrArg Except.error (Except.error.inj h)

theorem entries_append (s : RecordShape ρ) (before after : Layer) (r : ρ) :
    entries s (before ++ after) r = entries s before r >>= entries s after := by
  induction before generalizing r with
  | nil => rfl
  | cons e rest ih =>
    rw [List.cons_append, entries, entries]
    cases s.fields.find? (·.name == e.1) with
    | none => rfl
    | some f => simp only [ih, bind_assoc]

theorem items_append (read : Tree → Decoded α) (i : Nat) (before after : List Tree) :
    items read i (before ++ after) =
      items read i before >>= fun front =>
        (front ++ ·) <$> items read (i + before.length) after := by
  induction before generalizing i with
  | nil => simp [items]
  | cons t rest ih => simp [items, ih, Nat.add_assoc, Nat.add_comm 1]

theorem positional_append {earlier later : List (Field ρ)} {before after : List Tree}
    (h : earlier.length = before.length) (i : Nat) (r : ρ) :
    positional (earlier ++ later) i (before ++ after) r =
      positional earlier i before r >>= positional later (i + before.length) after := by
  induction earlier generalizing i r before with
  | nil =>
    obtain rfl := List.length_eq_zero_iff.1 h.symm
    simp [positional]
  | cons f rest ih =>
    cases before with
    | nil => cases h
    | cons t ts => simp [positional, ih (Nat.succ.inj h), Nat.add_assoc, Nat.add_comm 1]

theorem entries_unknown {s : RecordShape ρ} {key : String} (h : key ∉ s.fields.map Field.name)
    (t : Tree) (rest : Layer) (r : ρ) :
    Fails (.unknownField key (s.fields.map Field.name)) (entries s ((key, t) :: rest) r) := by
  have hnone : s.fields.find? (·.name == key) = none :=
    List.find?_eq_none.2 fun f hf hname => h (List.mem_map.2 ⟨f, hf, eq_of_beq hname⟩)
  rw [entries, hnone]
  exact fails_refuse t _

theorem Slot.set_fails {p : Slot ρ} {t : Tree} (h : Fails fault (p.read t)) (r : ρ) :
    Fails fault (p.field.set t r) :=
  h.bind fun a => pure (p.put a r)

/-! Readers that a change makes fail. -/

def Rejects (fault : ShapeFault) (read : Tree → Decoded α) (change : Value → Value → Prop) : Prop :=
  ∀ v v', change v v' → ∀ a, read (.ofValue v) = .ok a → Fails fault (read (.ofValue v'))

theorem rejects_added {s : RecordShape ρ} {key : String} (h : key ∉ s.fields.map Field.name)
    (d : Dialect) (start : ρ) :
    Rejects (.unknownField key (s.fields.map Field.name)) (record d s start) (Added key) := by
  rintro _ _ ⟨before, after, x⟩ r hok
  simp only [Tree.ofValue, record, Tree.ofFields_eq_map, List.map_append, List.map_cons,
    entries_append] at hok ⊢
  obtain ⟨mid, hmid, -⟩ := Except.bind_eq_ok_iff.1 hok
  rw [hmid]
  exact entries_unknown h _ _ mid

variable {change : Value → Value → Prop}

theorem Rejects.under {s : RecordShape ρ} {slots : List (Slot ρ)} (hlaid : Laid s slots)
    {p : Slot ρ} (hp : p ∈ slots) (h : Rejects fault p.read change) (d : Dialect) (start : ρ) :
    Rejects fault (record d s start) (Under p.name change) := by
  rintro _ _ ⟨before, after, hchange⟩ r hok
  simp only [Tree.ofValue, record, Tree.ofFields_eq_map, List.map_append, List.map_cons,
    entries_append] at hok ⊢
  obtain ⟨mid, hmid, hrest⟩ := Except.bind_eq_ok_iff.1 hok
  rw [entries, hlaid.find?_slot hp] at hrest
  obtain ⟨next, hset, -⟩ := Except.bind_eq_ok_iff.1 hrest
  obtain ⟨a, hread, -⟩ := Slot.set_eq_ok_iff.1 (below_eq_ok_iff.1 hset)
  rw [hmid]
  change Fails fault (entries s ((p.name, _) :: _) mid)
  rw [entries, hlaid.find?_slot hp]
  exact ((Slot.set_fails (h _ _ hchange a hread) mid).below _).bind _

theorem Rejects.atItem {read : Tree → Decoded α} (h : Rejects fault read change) :
    Rejects fault (list read) (AtItem change) := by
  rintro _ _ ⟨before, after, hchange⟩ contents hok
  simp only [Tree.ofValue, list, Tree.ofValues_eq_map, List.map_append, List.map_cons,
    items_append] at hok ⊢
  obtain ⟨front, hfront, hmore⟩ := Except.bind_eq_ok_iff.1 hok
  obtain ⟨more, hitems, -⟩ := Except.bind_eq_ok_iff.1 hmore
  obtain ⟨a, hread, -⟩ := Except.bind_eq_ok_iff.1 hitems
  rw [hfront]
  exact (((h _ _ hchange a (below_eq_ok_iff.1 hread)).below _).bind _).bind _

/-- Where a record is a list, the place says which field is changed. -/
theorem Rejects.atIndex {s : RecordShape ρ} {earlier later : List (Field ρ)} {p : Slot ρ}
    (hfields : s.fields = earlier ++ p.field :: later) (h : Rejects fault p.read change)
    (d : Dialect) (start : ρ) :
    Rejects fault (record d s start) (AtIndex earlier.length change) := by
  rintro _ _ ⟨before, after, hlength, hchange⟩ r hok
  have hlength : earlier.length = (before.map Tree.ofValue).length := by simp [hlength]
  simp only [Tree.ofValue, record, Tree.ofValues_eq_map, List.map_append, List.map_cons, hfields,
    positional_append hlength] at hok ⊢
  obtain ⟨whole, hwhole, -⟩ := Except.bind_eq_ok_iff.1 hok
  obtain ⟨mid, hmid, hrest⟩ := Except.bind_eq_ok_iff.1 hwhole
  rw [positional] at hrest
  obtain ⟨next, hset, -⟩ := Except.bind_eq_ok_iff.1 hrest
  obtain ⟨a, hread, -⟩ := Slot.set_eq_ok_iff.1 (below_eq_ok_iff.1 hset)
  rw [hmid]
  refine Fails.bind ?_ _
  change Fails fault (positional (p.field :: later) _ (_ :: _) mid)
  rw [positional]
  exact ((Slot.set_fails (h _ _ hchange a hread) mid).below _).bind _

theorem Rejects.directory {d : Dialect} (h : Rejects fault (record d directoryShape {}) change) :
    Rejects fault (directory d) change := by
  intro v v' hchange e hok
  obtain ⟨r, hread, -⟩ := Except.bind_eq_ok_iff.1 hok
  exact (h v v' hchange r hread).bind _

end Decoded

/-! Documents with a key too many. -/

def sectionFields : List (String × List String) :=
  [("discovery", ["format", "file_suffix", "id_key", "exclude_pattern", "directories"]),
   ("cache", ["enabled", "key_suffix"]),
   ("manager",
     ["fallback_strategy", "fallback_plugin", "fallback_provider", "installed_providers"]),
   ("logging", ["level"])]

/-- One document has a key more than the other, in a record whose fields have these names. -/
inductive GainsKey (key : String) : List String → Value → Value → Prop
  | top {v v' : Value} (h : Added key v v') :
      GainsKey key ["discovery", "cache", "manager", "logging"] v v'
  | inSection {name : String} {names : List String} {v v' : Value}
      (hsection : (name, names) ∈ sectionFields) (h : Under name (Added key) v v') :
      GainsKey key names v v'
  | inDirectory {v v' : Value}
      (h : Under "discovery" (Under "directories" (AtItem (Added key))) v v') :
      GainsKey key ["provider", "paths"] v v'
  /-- The section may be the list of its fields, of which the directories are the fifth. -/
  | inListedDirectory {v v' : Value}
      (h : Under "discovery" (AtIndex 4 (AtItem (Added key))) v v') :
      GainsKey key ["provider", "paths"] v v'

theorem exists_section {name : String} {names : List String} (h : (name, names) ∈ sectionFields)
    (d : Dialect) :
    ∃ c ∈ Section.all, c.name = name ∧ (c.shape d).fields.map Field.name = names := by
  simp only [sectionFields, List.mem_cons, Prod.mk.injEq, List.not_mem_nil, or_false] at h
  rcases h with ⟨rfl, rfl⟩ | ⟨rfl, rfl⟩ | ⟨rfl, rfl⟩ | ⟨rfl, rfl⟩
  · exact ⟨discoverySection, by simp [Section.all], rfl, rfl⟩
  · exact ⟨cacheSection, by simp [Section.all], rfl, rfl⟩
  · exact ⟨managerSection, by simp [Section.all], rfl, rfl⟩
  · exact ⟨loggingSection, by simp [Section.all], rfl, rfl⟩

theorem Section.rejects {c : Section} (hc : c ∈ all) {d : Dialect} {fault : ShapeFault}
    {change : Value → Value → Prop} (h : Rejects fault (record d (c.shape d) c.start) change) :
    Rejects fault (decode d) (Under c.name change) :=
  Rejects.under (p := c.slot d) (laid_all d) (List.mem_map_of_mem hc) h d {}

theorem rejects_directory {key : String} (h : key ∉ ["provider", "paths"]) (d : Dialect) :
    Rejects (.unknownField key ["provider", "paths"]) (list (directory d)) (AtItem (Added key)) :=
  (rejects_added (s := directoryShape) h d {}).directory.atItem

def directoriesSlot (d : Dialect) : Slot DiscoverySettings :=
  ⟨_, "directories", list (directory d), (·.directories), fun ds r => { r with directories := ds }⟩

theorem directoriesSlot_mem (d : Dialect) : directoriesSlot d ∈ discoverySlots d :=
  .tail _ (.tail _ (.tail _ (.tail _ (.head _))))

theorem discoveryShape_fields (d : Dialect) :
    (discoveryShape d).fields =
      ((discoveryShape d).fields.take 4) ++ [(directoriesSlot d).field] := rfl

theorem decode_fails_of_gainsKey {key : String} {names : List String} {v v' : Value}
    (hkey : key ∉ names) (h : GainsKey key names v v') {d : Dialect} {s : Settings}
    (hok : decode d (.ofValue v) = .ok s) :
    Fails (.unknownField key names) (decode d (.ofValue v')) := by
  have hdiscovery : discoverySection ∈ Section.all := .head _
  cases h with
  | top h => exact rejects_added (s := shape d) hkey d {} _ _ h s hok
  | inSection hsection h =>
    obtain ⟨c, hc, rfl, rfl⟩ := exists_section hsection d
    exact Section.rejects hc (rejects_added hkey d c.start) _ _ h s hok
  | inDirectory h =>
    have hrejects := (rejects_directory hkey d).under (p := directoriesSlot d)
      (discoverySection.laid d) (directoriesSlot_mem d) d {}
    exact Section.rejects hdiscovery hrejects _ _ h s hok
  | inListedDirectory h =>
    have hrejects := (rejects_directory hkey d).atIndex (p := directoriesSlot d)
      (discoveryShape_fields d) d {}
    exact Section.rejects hdiscovery hrejects _ _ h s hok

/-- Settings are written out exactly if their paths are in UTF-8, and what they write is read as these
settings. No document that is read has room for a key that its records do not know. -/
theorem ofValue_reads_back_and_refuses_unknown_keys :
    (∀ s : Settings, s.PathsInUtf8 → ∃ v, s.toValue = .ok v ∧ ofValue v = .ok s) ∧
      (∀ s : Settings, ¬s.PathsInUtf8 → s.toValue = .error .pathNotUtf8) ∧
      ∀ (key : String) (names : List String) (v v' : Value) (s : Settings),
        ofValue v = .ok s → key ∉ names → GainsKey key names v v' →
          ofValue v' = .error (.unknownField key names) := by
  refine ⟨fun s hutf8 => ?_, fun s hutf8 => ?_, ?_⟩
  · obtain ⟨v, hv⟩ := exists_toValue_iff.2 hutf8
    refine ⟨v, hv, ?_⟩
    unfold ofValue
    rw [decode_of_written .document hv]
    rfl
  · cases hwritten : s.toValue with
    | error fault =>
      cases fault
      rfl
    | ok v => exact absurd (exists_toValue_iff.1 ⟨v, hwritten⟩) hutf8
  · intro key names v v' s hok hkey hgains
    exact decode_fails_of_gainsKey hkey hgains (Except.mapError_eq_ok_iff.1 hok)

theorem misspelt_paths_refused :
    let entry : List (String × Value) := [("provider", .str "core")]
    let document (entry : List (String × Value)) : Value :=
      .obj [("discovery", .obj [("directories", .arr [.obj entry])])]
    let misspelt := Keyed.insert "path" (textList ["plugins"]) entry
    let s : Settings := { discovery := { directories := [{ provider := "core" }] } }
    ofValue (document entry) = .ok s ∧ "path" ∉ ["provider", "paths"] ∧
      GainsKey "path" ["provider", "paths"] (document entry) (document misspelt) ∧
      ofValue (document misspelt) = .error (.unknownField "path" ["provider", "paths"]) ∧
      s.PathsInUtf8 ∧ ∃ v, s.toValue = .ok v ∧ ofValue v = .ok s := by
  intro entry document misspelt s
  have hread : ofValue (document entry) = .ok s := rfl
  have hkey : "path" ∉ ["provider", "paths"] := by decide
  have hadded : Added "path" (.obj entry) (.obj misspelt) := added_insert (by decide) _
  have hgains : GainsKey "path" ["provider", "paths"] (document entry) (document misspelt) :=
    .inDirectory (.intro [] [] (.intro [] [] (.intro [] [] hadded)))
  have hutf8 : s.PathsInUtf8 := by simp [s, PathsInUtf8]
  obtain ⟨hback, -, hstrict⟩ := ofValue_reads_back_and_refuses_unknown_keys
  exact ⟨hread, hkey, hgains, hstrict _ _ _ _ s hread hkey hgains, hutf8, hback s hutf8⟩

/-- A path that is not in UTF-8 leaves nothing that could be read back. -/
theorem not_every_settings_written :
    ¬∀ s : Settings, ∃ v, s.toValue = .ok v ∧ ofValue v = .ok s := by
  intro h
  obtain ⟨v, hv, -⟩ :=
    h { discovery := { directories := [{ provider := "core", paths := [⟨⟨[0xFF]⟩⟩] }] } }
  cases hv

end PluginHost.Settings
