import PluginHost.Proofs.Settings.Precedence

/-!
Which key a variable is named for. The letters of a name can be read off the key, so that names with
other letters are for other keys. Two variables set one key of a section only where one of them is
named for the section as a whole and holds a table with the key.
-/
namespace PluginHost.Environment

open Text

/-! One underscore at most becomes a dot, and names without dots stay apart. -/

theorem keyPath_split (key : String) :
    (∃ s ∈ sectionNames, ∃ rest, rest ≠ "" ∧ key = s ++ "_" ++ rest ∧
      keyPath key = s ++ "." ++ rest) ∨
      (∀ s ∈ sectionNames, ∀ rest, rest ≠ "" → key ≠ s ++ "_" ++ rest) ∧ keyPath key = key := by
  have hcases := keyPath_cases key.toList
  rw [String.ofList_toList] at hcases
  rcases hcases with ⟨s, hs, tail, htail, hkey, hpath⟩ | ⟨hnone, hpath⟩
  · refine .inl ⟨s, hs, String.ofList tail, by simpa using htail, ?_, ?_⟩
    · exact String.toList_injective (by simp [hkey])
    · exact String.toList_injective (by simp [hpath])
  · refine .inr ⟨fun s hs rest hrest hkey => ?_, String.toList_injective hpath⟩
    exact hnone s hs rest.toList (by simpa using hrest) (by simp [hkey])

theorem keyPath_of_section {s : String} (hs : s ∈ sectionNames) {rest : String} (h : rest ≠ "") :
    keyPath (s ++ "_" ++ rest) = s ++ "." ++ rest := by
  rcases keyPath_split (s ++ "_" ++ rest) with ⟨s', hs', rest', -, hkey, hpath⟩ | ⟨hnone, -⟩
  · have hsep := (letters_of_mem_sectionNames hs).2.2.1
    have hsep' := (letters_of_mem_sectionNames hs').2.2.1
    obtain ⟨rfl, rfl⟩ := eq_of_joined rfl hsep hsep' hkey
    exact hpath
  · exact absurd rfl (hnone s hs rest h)

theorem dot_mem_path (s rest : String) : '.' ∈ (s ++ "." ++ rest).toList := by
  simp

theorem keyPath_inj {key other : String} (hkey : '.' ∉ key.toList) (hother : '.' ∉ other.toList)
    (h : keyPath key = keyPath other) : key = other := by
  rcases keyPath_split key with ⟨s, hs, rest, -, rfl, hpath⟩ | ⟨-, hpath⟩ <;>
    rcases keyPath_split other with ⟨s', hs', rest', -, rfl, hpath'⟩ | ⟨-, hpath'⟩ <;>
    rw [hpath, hpath'] at h
  · have hsep := (letters_of_mem_sectionNames hs).2.1
    have hsep' := (letters_of_mem_sectionNames hs').2.1
    obtain ⟨rfl, rfl⟩ := eq_of_joined rfl hsep hsep' h
    rfl
  · exact absurd (h ▸ dot_mem_path s rest) hother
  · exact absurd (h ▸ dot_mem_path s' rest') hkey
  · exact h

/-! The letters of a name can be read off the keys that its variable sets. -/

section Names

variable {name other : String} {keys : List String}

/-- What follows the mark that all names of variables with settings start with. -/
def afterStart (name : String) : List Char := (trim name.toList).drop nameStart.length

/-- A name in small letters, without the blanks around it and those after its mark. -/
def letters (name : String) : List Char :=
  ((trim name.toList).take nameStart.length ++ trim (afterStart name)).map Char.toLower

theorem letters_of_no_blank (h : ∀ c ∈ name.toList, isSpace c = false) :
    letters name = name.toList.map Char.toLower := by
  unfold letters afterStart
  rw [trim_of_no_blank h, trim_of_no_blank fun c hc => h c (List.mem_of_mem_drop hc),
    List.take_append_drop]

theorem start_of_keysOf? (h : keysOf? name = some keys) :
    ((trim name.toList).take nameStart.length).map Char.toLower = nameStart := by
  unfold keysOf? at h
  simp only [List.splitAt_eq] at h
  split at h
  · cases h
  · next hstart => exact Decidable.not_not.1 hstart

theorem keys_of_no_dot (hdot : '.' ∉ name.toList) (h : keysOf? name = some keys) :
    (∃ s ∈ sectionNames, ∃ tail, afterStart name = s.toList ++ '_' :: tail ∧
      keys = [s, String.ofList ((trimEnd tail).map Char.toLower)]) ∨
      keys = [String.ofList ((trim (afterStart name)).map Char.toLower)] := by
  have hrest : '.' ∉ afterStart name := fun hmem =>
    hdot ((trim_sublist _).subset (List.mem_of_mem_drop hmem))
  exact keysOf?_cases (List.take_append_drop _ _).symm (start_of_keysOf? h) hrest h

theorem letters_of_keysOf? (hdot : '.' ∉ name.toList) (h : keysOf? name = some keys) :
    letters name = nameStart ++ ['_'].intercalate (keys.map String.toList) := by
  unfold letters
  rw [List.map_append, start_of_keysOf? h]
  rcases keys_of_no_dot hdot h with ⟨s, hs, tail, hname, rfl⟩ | rfl
  · obtain ⟨hlower, -, -, c, cs, hcs, hspace⟩ := letters_of_mem_sectionNames hs
    have hkept : trim (s.toList ++ '_' :: tail) = s.toList ++ '_' :: trimEnd tail := by
      rw [hcs, trim_of_cons hspace rfl]
    rw [hname, hkept, List.map_append, hlower]
    -- the underscore that was given up for the split joins the two keys again
    simp [List.intercalate]
  · simp [List.intercalate]

theorem keysOf?_ne_of_letters (hdot : '.' ∉ name.toList) (hother : '.' ∉ other.toList)
    (hletters : letters name ≠ letters other) (h : keysOf? name = some keys) :
    keysOf? other ≠ some keys := fun h' =>
  hletters ((letters_of_keysOf? hdot h).trans (letters_of_keysOf? hother h').symm)

end Names

/-! What one variable gives for a key of a section, if its name has no dots. -/

open Settings

variable {v w : String × String} {s key : String}

/-- With this variable alone the environment gives something for the key of the section. -/
def Sets (v : String × String) (s key : String) : Prop :=
  (Settings.given? (layer [v]) s key).isSome

instance : Decidable (Sets v s key) := inferInstanceAs (Decidable (_ = true))

def held? (key : String) : Tree → Option Tree
  | .table _ entries => Keyed.get? key entries
  | _ => none

/-- The variable is for the whole section and holds a table with the key. -/
def SetsInTable (v : String × String) (s key : String) : Prop :=
  keysOf? v.1 = some [s] ∧ (held? key (valueOf v.2)).isSome

theorem layer_singleton (v : String × String) : layer [v] = variableLayer v := by
  have hordered : Keyed.Ordered (variableLayer v) := by
    unfold variableLayer
    split
    · exact List.pairwise_singleton _ _
    · exact Keyed.ordered_nil
  rw [layer_eq_foldl, List.map_singleton, List.foldl_cons, List.foldl_nil,
    Tree.layEntries_nil hordered]

theorem given?_singleton (k : String) (t : Tree) :
    Settings.given? [(k, t)] s key = if k = s then held? key t else none := by
  unfold Settings.given? sectionOf
  by_cases h : k = s
  · cases t <;> simp [Keyed.get?, held?, h]
  · simp [Keyed.get?, h]

/-- A variable sets a key of a section if it is for this key, or for the section. -/
theorem sets_iff (hdot : '.' ∉ v.1.toList) :
    Sets v s key ↔ keysOf? v.1 = some [s, key] ∨ SetsInTable v s key := by
  unfold Sets SetsInTable
  rw [layer_singleton]
  unfold variableLayer
  cases hkeys : keysOf? v.1 with
  | none => simp [Settings.given?, sectionOf, Keyed.get?]
  | some keys =>
    rcases keys_of_no_dot hdot hkeys with ⟨s', -, tail, -, rfl⟩ | rfl <;>
      simp only [given?_singleton, nest]
    · split
      · next hs => simp [held?, Keyed.get?, hs]
      · next hs => simp [hs]
    · split
      · next hs => simp [hs]
      · next hs => simp [hs]

theorem sets_both_iff (hv : '.' ∉ v.1.toList) (hw : '.' ∉ w.1.toList)
    (h : letters v.1 ≠ letters w.1) :
    Sets v s key ∧ Sets w s key ↔
      keysOf? v.1 = some [s, key] ∧ SetsInTable w s key ∨
        SetsInTable v s key ∧ keysOf? w.1 = some [s, key] := by
  have hapart : ∀ keys, keysOf? v.1 = some keys → keysOf? w.1 ≠ some keys :=
    fun keys => keysOf?_ne_of_letters hv hw h
  rw [sets_iff hv, sets_iff hw]
  constructor
  · rintro ⟨hv' | hv', hw' | hw'⟩
    · exact absurd hw' (hapart _ hv')
    · exact .inl ⟨hv', hw'⟩
    · exact .inr ⟨hv', hw'⟩
    · exact absurd hw'.1 (hapart _ hv'.1)
  · rintro (⟨hv', hw'⟩ | ⟨hv', hw'⟩)
    · exact ⟨.inl hv', .inr hw'⟩
    · exact ⟨.inr hv', .inl hw'⟩

/-- The underscore after a section, if anything follows it, and nothing else becomes a dot, so that
keys without dots stay apart. Variables whose names have other letters are for other keys, and both
set a key of a section exactly if one is for this key and the other, for the section, holds a table
with it. -/
theorem names_tell_keys_apart :
    (∀ key, keyPath key = key ∨ ∃ s ∈ sectionNames, ∃ rest, rest ≠ "" ∧ key = s ++ "_" ++ rest ∧
      keyPath key = s ++ "." ++ rest) ∧
    (∀ s ∈ sectionNames, ∀ rest, rest ≠ "" → keyPath (s ++ "_" ++ rest) = s ++ "." ++ rest) ∧
    (∀ key other, '.' ∉ key.toList → '.' ∉ other.toList → keyPath key = keyPath other →
      key = other) ∧
    (∀ name, (∀ c ∈ name.toList, isSpace c = false) →
      letters name = name.toList.map Char.toLower) ∧
    ∀ v w : String × String, '.' ∉ v.1.toList → '.' ∉ w.1.toList → letters v.1 ≠ letters w.1 →
      (∀ keys, keysOf? v.1 = some keys → keysOf? w.1 ≠ some keys) ∧
      ∀ s key, Sets v s key ∧ Sets w s key ↔
        keysOf? v.1 = some [s, key] ∧ SetsInTable w s key ∨
          SetsInTable v s key ∧ keysOf? w.1 = some [s, key] := by
  refine ⟨fun key => ?_, fun s hs rest => keyPath_of_section hs, fun key other => keyPath_inj,
    fun name => letters_of_no_blank,
    fun v w hv hw h => ⟨fun keys => keysOf?_ne_of_letters hv hw h, fun s key => ?_⟩⟩
  · exact (keyPath_split key).symm.imp_left And.right
  · exact sets_both_iff hv hw h

def suffixVariable : String × String := ("TRELLIS_cache_key_suffix", "y")

/-- A variable with the section in its name twice. -/
def nestedVariable : String × String := ("Trellis_cache_cache_key_suffix", "x")

theorem suffixVariable_apart_from_nestedVariable :
    keyPath "cache_key_suffix" = "cache.key_suffix" ∧
      keyPath "cache_cache_key_suffix" ≠ keyPath "cache_key_suffix" ∧
      letters nestedVariable.1 = nestedVariable.1.toList.map Char.toLower ∧
      letters suffixVariable.1 ≠ letters nestedVariable.1 ∧
      Sets suffixVariable "cache" "key_suffix" ∧ ¬Sets nestedVariable "cache" "key_suffix" := by
  obtain ⟨-, hsection, hinj, hletters, hapart⟩ := names_tell_keys_apart
  have hblank : nestedVariable.1.toList.any isSpace = false := by decide +kernel
  have hnested : letters nestedVariable.1 = nestedVariable.1.toList.map Char.toLower :=
    hletters nestedVariable.1 fun c hc => by simpa using List.any_eq_false.1 hblank c hc
  have hother : letters suffixVariable.1 ≠ letters nestedVariable.1 := by decide +kernel
  have hsuffix : Sets suffixVariable "cache" "key_suffix" := by decide +kernel
  have hkeys : keysOf? nestedVariable.1 = some ["cache", "cache_key_suffix"] := by decide +kernel
  refine ⟨hsection "cache" (by decide) "key_suffix" (by decide), fun h => ?_, hnested, hother,
    hsuffix, fun h => ?_⟩
  · exact absurd (hinj _ _ (by decide +kernel) (by decide +kernel) h) (by decide)
  · obtain ⟨-, hboth⟩ := hapart suffixVariable nestedVariable (by decide +kernel)
      (by decide +kernel) hother
    rcases (hboth "cache" "key_suffix").1 ⟨hsuffix, h⟩ with ⟨-, htable, -⟩ | ⟨-, hsame⟩
    · simp [hkeys] at htable
    · simp [hkeys] at hsame

def cacheVariable : String × String := ("TRELLIS_cache", "\x7bkey_suffix=x\x7d")

/-- The same key with a blank after it. -/
def blankVariable : String × String := ("TRELLIS_cache_key_suffix ", "x")

/-- A variable for the section sets the key by its table, and a blank at the end of a name does not
count: each of the three names loads the same key. -/
theorem key_suffix_set_by_other_names :
    ('.' ∉ suffixVariable.1.toList ∧ '.' ∉ cacheVariable.1.toList ∧
      '.' ∉ blankVariable.1.toList) ∧
    suffixVariable.1.toList.map Char.toLower ≠ cacheVariable.1.toList.map Char.toLower ∧
    suffixVariable.1.toList.map Char.toLower ≠ blankVariable.1.toList.map Char.toLower ∧
    Sets suffixVariable "cache" "key_suffix" ∧ Sets cacheVariable "cache" "key_suffix" ∧
    Sets blankVariable "cache" "key_suffix" ∧
    (ofHost (FileTree.ofHere ["w"]) [suffixVariable]).toOption =
      some { cache := { keySuffix := "y" } } ∧
    (ofHost (FileTree.ofHere ["w"]) [cacheVariable]).toOption =
      some { cache := { keySuffix := "x" } } ∧
    (ofHost (FileTree.ofHere ["w"]) [blankVariable]).toOption =
      some { cache := { keySuffix := "x" } } := by
  decide +kernel

end PluginHost.Environment
