import PluginHost.Proofs.Path
import PluginHost.Proofs.Settings.Sections

/-!
Settings that are written out in full are read back as they were. Each kind of content has a writer
that its reader undoes; a record is written field by field, whatever the order of its keys. Only a path
may refuse to be written, when it is not in UTF-8.
-/
namespace PluginHost.Settings

open Decoded

namespace Tree

theorem ofValues_eq_map (vs : List Value) : ofValues vs = vs.map ofValue := by
  induction vs with
  | nil => rfl
  | cons v rest ih => rw [ofValues, ih, List.map_cons]

theorem ofFields_eq_map (fields : List (String × Value)) :
    ofFields fields = fields.map fun f => (f.1, ofValue f.2) := by
  induction fields with
  | nil => rfl
  | cons f rest ih => rw [ofFields, ih, List.map_cons]

theorem get?_ofFields {key : String} {fields : List (String × Value)} :
    Keyed.get? key (ofFields fields) = (Keyed.get? key fields).map ofValue := by
  rw [ofFields_eq_map]
  exact Keyed.get?_mapValues (f := fun _ => ofValue)

theorem keys_ofFields (fields : List (String × Value)) :
    (ofFields fields).map Prod.fst = fields.map Prod.fst := by
  rw [ofFields_eq_map, List.map_map]
  rfl

theorem ofValue_ne_null {v : Value} (h : v ≠ .null) (o : Option Origin) :
    ofValue v ≠ .scalar o .null := by
  cases v <;> simp [ofValue] at h ⊢

end Tree

namespace Decoded

variable {α ρ : Type}

def ReadsBack (read : Tree → Decoded α) (write : α → Value) : Prop :=
  ∀ a, read (.ofValue (write a)) = .ok a

theorem readsBack_boolean : ReadsBack boolean .bool := fun _ => rfl

theorem readsBack_text : ReadsBack text .str := fun _ => rfl

theorem path_of_written {p : Path} {s : String} (h : p.written = .ok s) :
    path (.ofValue (.str s)) = .ok p :=
  congrArg Except.ok (Path.written_eq_ok_iff.1 h).symm

theorem ReadsBack.choice {c : Choice α} {name : α → String} (h : ∀ a, c.ofText? (name a) = some a)
    (d : Dialect) : ReadsBack (choice d c) fun a => .str (name a) := by
  intro a
  have hnamed : Decoded.choice d c (.ofValue (.str (name a))) = named c (name a) := rfl
  rw [hnamed, named, h]
  rfl

/-- Nothing is written as null, so that nothing else may be. -/
theorem ReadsBack.optional {read : Tree → Decoded α} {write : α → Value} (h : ReadsBack read write)
    (hnull : ∀ a, write a ≠ .null) :
    ReadsBack (optional read) fun content => (content.map write).getD .null := by
  rintro (_ | a)
  · rfl
  · have hread :
        Decoded.optional read (.ofValue (write a)) = some <$> read (.ofValue (write a)) := by
      unfold Decoded.optional
      split
      · next heq => exact absurd heq (Tree.ofValue_ne_null (hnull a) _)
      · rfl
    exact hread.trans (by rw [h a]; rfl)

theorem list_of_forall₂ {read : Tree → Decoded α} {contents : List α} {vs : List Value}
    (h : List.Forall₂ (fun a v => read (.ofValue v) = .ok a) contents vs) :
    list read (.ofValue (.arr vs)) = .ok contents := by
  have hitems : ∀ i, items read i (Tree.ofValues vs) = .ok contents := by
    induction h with
    | nil => exact fun i => rfl
    | cons hread _ ih =>
      intro i
      rw [Tree.ofValues, items, hread, ih (i + 1)]
      rfl
  exact hitems 0

theorem ReadsBack.list {read : Tree → Decoded α} {write : α → Value} (h : ReadsBack read write) :
    ReadsBack (list read) fun contents => .arr (contents.map write) := fun _ =>
  list_of_forall₂ (List.forall₂_map_right_iff.2 (List.forall₂_same.2 fun a _ => h a))

/-- Fields that write, slot by slot, what `r` holds. -/
inductive Writes (r : ρ) : List (Slot ρ) → List (String × Value) → Prop
  | nil : Writes r [] []
  | cons {p : Slot ρ} {v : Value} {slots : List (Slot ρ)} {fields : List (String × Value)}
      (hread : p.read (.ofValue v) = .ok (p.get r)) (hrest : Writes r slots fields) :
      Writes r (p :: slots) ((p.name, v) :: fields)

theorem Writes.keys {r : ρ} {slots : List (Slot ρ)} {fields : List (String × Value)}
    (h : Writes r slots fields) : fields.map Prod.fst = slots.map Slot.name := by
  induction h with
  | nil => rfl
  | cons _ _ ih => rw [List.map_cons, List.map_cons, ih]

theorem Writes.exists_field {r : ρ} {slots : List (Slot ρ)} {fields : List (String × Value)}
    (h : Writes r slots fields) {p : Slot ρ} (hp : p ∈ slots) :
    ∃ v, (p.name, v) ∈ fields ∧ p.read (.ofValue v) = .ok (p.get r) := by
  induction h with
  | nil => cases hp
  | cons hread _ ih =>
    rcases List.mem_cons.1 hp with rfl | hp
    · exact ⟨_, List.mem_cons_self, hread⟩
    · obtain ⟨v, hv, hread⟩ := ih hp
      exact ⟨v, List.mem_cons_of_mem _ hv, hread⟩

/-- A record that is written in full is read back, whatever its reader starts with. -/
theorem Laid.record_object {s : RecordShape ρ} {slots : List (Slot ρ)} (hlaid : Laid s slots)
    {r : ρ} {fields : List (String × Value)} (hwrites : Writes r slots fields) (d : Dialect)
    (start : ρ) : record d s start (.ofValue (object fields)) = .ok r := by
  have hnodup : (fields.map Prod.fst).Nodup := by
    rw [hwrites.keys]
    exact List.pairwise_map.2 hlaid.names
  have hordered : Keyed.Ordered (Tree.ofFields (Keyed.ofList fields)) := by
    rw [Keyed.Ordered, Tree.keys_ofFields]
    exact Keyed.ordered_ofList fields
  have hget : ∀ key, Keyed.get? key (Tree.ofFields (Keyed.ofList fields)) =
      (Keyed.get? key fields).map Tree.ofValue := fun key => by
    rw [Tree.get?_ofFields, Keyed.get?_ofList_of_nodup hnodup]
  refine (hlaid.entries_eq_ok_iff hordered).2 ⟨fun key hkey => ?_, fun p hp => ?_⟩
  · have hfield : key ∈ fields.map Prod.fst := Classical.byContradiction fun hnone =>
      Keyed.get?_eq_none_iff.1 (by rw [hget, Keyed.get?_eq_none_iff.2 hnone]; rfl) hkey
    rw [hwrites.keys] at hfield
    exact List.mem_map.1 hfield
  · obtain ⟨v, hv, hread⟩ := hwrites.exists_field hp
    rw [hget, Keyed.get?_eq_some_of_nodup hnodup hv]
    exact hread

end Decoded

theorem optionalText_eq : optionalText = fun content => (content.map Value.str).getD .null := by
  funext content
  cases content <;> rfl

theorem readsBack_optionalText : ReadsBack (optional text) optionalText := by
  rw [optionalText_eq]
  exact readsBack_text.optional fun _ => nofun

theorem readsBack_textList : ReadsBack (list text) textList := readsBack_text.list

def directorySlots : List (Slot DirectoryDraft) :=
  [⟨Option String, "provider", fun t => some <$> text t, (·.provider),
     fun s r => { r with provider := s }⟩,
   ⟨List Path, "paths", list path, (·.paths), fun ps r => { r with paths := ps }⟩]

theorem laid_directory : Laid directoryShape directorySlots where
  fields := by
    have hprovider : (Field.of "provider" text fun s (r : DirectoryDraft) =>
        { r with provider := some s }) =
        .of "provider" (fun t => some <$> text t) fun s r => { r with provider := s } := by
      unfold Field.of
      congr 1
      funext t r
      cases h : text t <;> simp [h]
    unfold directoryShape
    rw [hprovider]
    rfl
  names := by simp [directorySlots]
  own := by simp [directorySlots]
  others := by simp [directorySlots]
  whole := by
    rintro ⟨⟩ ⟨⟩ h
    simpa [directorySlots] using h

theorem directory_of_written (d : Dialect) {e : DirectorySettings} {v : Value}
    (h : ofDirectory e = .ok v) : directory d (.ofValue v) = .ok e := by
  obtain ⟨texts, htexts, hv⟩ := Except.bind_eq_ok_iff.1 h
  obtain rfl := Except.ok.inj hv
  have hpaths : list path (.ofValue (textList texts)) = .ok e.paths :=
    list_of_forall₂ <| List.forall₂_map_right_iff.2 <|
      (Except.mapM_eq_ok_iff.1 htexts).imp fun _ _ => path_of_written
  have hdraft : record d directoryShape {}
      (.ofValue (object [("provider", .str e.provider), ("paths", textList texts)])) =
      .ok { provider := some e.provider, paths := e.paths } :=
    laid_directory.record_object (.cons rfl (.cons hpaths .nil)) d {}
  rw [directory, hdraft]
  rfl

theorem readsBack_format (d : Dialect) : ReadsBack (choice d formatChoice) fun f => .str f.name :=
  .choice (fun f => by cases f <;> rfl) d

theorem readsBack_strategy (d : Dialect) :
    ReadsBack (choice d strategyChoice) fun s => .str s.name :=
  .choice (fun s => by cases s <;> rfl) d

theorem discovery_of_written (d : Dialect) {x : DiscoverySettings} {v : Value}
    (h : ofDiscovery x = .ok v) : record d (discoveryShape d) {} (.ofValue v) = .ok x := by
  obtain ⟨directories, hdirectories, hv⟩ := Except.bind_eq_ok_iff.1 h
  obtain rfl := Except.ok.inj hv
  have hlist : list (directory d) (.ofValue (.arr directories)) = .ok x.directories :=
    list_of_forall₂ ((Except.mapM_eq_ok_iff.1 hdirectories).imp fun _ _ => directory_of_written d)
  exact (discoverySection.laid d).record_object
    (.cons (readsBack_format d x.format) <|
      .cons (readsBack_optionalText x.fileSuffix) <|
      .cons (readsBack_text x.idKey) <|
      .cons (readsBack_optionalText x.excludePattern) <|
      .cons hlist .nil) d {}

theorem readsBack_cache (d : Dialect) : ReadsBack (record d cacheShape {}) ofCache :=
  fun x => (cacheSection.laid d).record_object
    (.cons (readsBack_boolean x.enabled) <| .cons (readsBack_text x.keySuffix) .nil) d {}

theorem readsBack_manager (d : Dialect) : ReadsBack (record d (managerShape d) {}) ofManager :=
  fun x => (managerSection.laid d).record_object
    (.cons (readsBack_strategy d x.fallbackStrategy) <|
      .cons (readsBack_optionalText x.fallbackPlugin) <|
      .cons (readsBack_optionalText x.fallbackProvider) <|
      .cons (readsBack_textList.optional (fun _ => nofun) x.installedProviders) .nil) d {}

theorem readsBack_logging (d : Dialect) : ReadsBack (record d loggingShape {}) ofLogging :=
  fun x => (loggingSection.laid d).record_object (.cons (readsBack_text x.level) .nil) d {}

theorem decode_of_written (d : Dialect) {s : Settings} {v : Value} (h : s.toValue = .ok v) :
    decode d (.ofValue v) = .ok s := by
  obtain ⟨discovery, hdiscovery, hv⟩ := Except.bind_eq_ok_iff.1 h
  obtain rfl := Except.ok.inj hv
  have hwrites : Writes s (Section.all.map (·.slot d))
      [("discovery", discovery), ("cache", ofCache s.cache),
       ("manager", ofManager s.manager), ("logging", ofLogging s.logging)] :=
    .cons (discovery_of_written d hdiscovery) <|
      .cons (readsBack_cache d s.cache) <|
      .cons (readsBack_manager d s.manager) <|
      .cons (readsBack_logging d s.logging) .nil
  exact (Section.laid_all d).record_object hwrites d {}

/-- The paths of the directories can be written as texts. -/
def PathsInUtf8 (s : Settings) : Prop := ∀ e ∈ s.discovery.directories, ∀ p ∈ e.paths, p.raw.InUtf8

theorem exists_toValue_iff {s : Settings} : (∃ v, s.toValue = .ok v) ↔ s.PathsInUtf8 := by
  have hdirectory : ∀ e, (∃ v, ofDirectory e = .ok v) ↔ ∀ p ∈ e.paths, p.raw.InUtf8 := by
    intro e
    unfold ofDirectory
    simp only [Except.exists_bind_pure_iff, Except.exists_mapM_eq_ok_iff, Path.exists_written_iff]
  unfold toValue ofDiscovery
  simp only [Except.exists_bind_pure_iff, Except.exists_mapM_eq_ok_iff, hdirectory, PathsInUtf8]

end PluginHost.Settings
