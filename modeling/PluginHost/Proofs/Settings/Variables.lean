import PluginHost.Proofs.Settings.Sections
import PluginHost.Proofs.Text.Line
import PluginHost.Proofs.Text.Reader
import PluginHost.Proofs.Text.Split
import PluginHost.Settings.Environment

/-!
Variables named after a section and a key of it set that key, if they are in small letters. Otherwise
they set a key that is in no section.
-/
namespace PluginHost

namespace Text

theorem toNat_toLower (c : Char) :
    c.toLower.toNat = if 65 ≤ c.toNat ∧ c.toNat ≤ 90 then c.toNat + 32 else c.toNat := by
  unfold Char.toLower
  split
  · next h =>
    have hlow : 65 ≤ c.val.toNat := h.1
    have hhigh : c.val.toNat ≤ 90 := h.2
    have hadd : (c.val + 32).toNat = c.val.toNat + 32 := by
      rw [UInt32.toNat_add]
      have hoffset : (32 : UInt32).toNat = 32 := rfl
      omega
    rw [if_pos ⟨hlow, hhigh⟩]
    exact hadd
  · next h => exact (if_neg fun hrange => h ⟨hrange.1, hrange.2⟩).symm

theorem isSpace_toLower (c : Char) : isSpace c.toLower = isSpace c := by
  unfold isSpace
  rw [toNat_toLower]
  split
  · rw [Bool.eq_iff_iff]
    simp
    omega
  · rfl

theorem eq_dot_of_toLower {c : Char} (h : c.toLower = '.') : c = '.' := by
  have hnat := congrArg Char.toNat h
  rw [toNat_toLower] at hnat
  split at hnat
  · next hrange =>
    have hdot : '.'.toNat = 46 := rfl
    omega
  · exact Char.toNat_inj.1 hnat

end Text

namespace Environment

open Text

/-- `TRELLIS_<SECTION>_<KEY>` in any mixture of capitals and small letters, with a key without dots. -/
def NamesKey (name : String) : Prop :=
  ∃ start sec key, name.toList = start ++ sec ++ '_' :: key ∧ start.map Char.toLower = nameStart ∧
    String.ofList (sec.map Char.toLower) ∈ sectionNames ∧ '.' ∉ key

theorem letters_of_mem_sectionNames {s : String} (hs : s ∈ sectionNames) :
    s.toList.map Char.toLower = s.toList ∧ '.' ∉ s.toList ∧ '_' ∉ s.toList ∧
      ∃ c cs, s.toList = c :: cs ∧ isSpace c = false := by
  simp only [sectionNames, List.mem_cons, List.not_mem_nil, or_false] at hs
  rcases hs with rfl | rfl | rfl | rfl <;> exact ⟨by decide, by decide, by decide, _, _, rfl, rfl⟩

theorem restAfter?_eq_some_iff {s : String} {key tail : List Char} :
    restAfter? s key = some tail ↔ tail ≠ [] ∧ key = s.toList ++ '_' :: tail := by
  have hdrop := @dropPrefix?_eq_some_iff (s.toList ++ ['_']) key
  rw [List.append_cons s.toList '_' tail, ← hdrop]
  unfold restAfter?
  split
  · next hnil => simp +contextual [hnil]
  · next hne =>
    constructor
    · rintro h
      exact ⟨fun htail => hne (htail ▸ h), h⟩
    · exact And.right

theorem keyPath_cases (rest : List Char) :
    (∃ s ∈ sectionNames, ∃ tail, tail ≠ [] ∧ rest = s.toList ++ '_' :: tail ∧
      (keyPath (String.ofList rest)).toList = s.toList ++ '.' :: tail) ∨
      (∀ s ∈ sectionNames, ∀ tail, tail ≠ [] → rest ≠ s.toList ++ '_' :: tail) ∧
        (keyPath (String.ofList rest)).toList = rest := by
  unfold keyPath
  simp only [String.toList_ofList]
  cases hfind : sectionNames.findSome? fun s =>
      (restAfter? s rest).map fun tail => s ++ "." ++ String.ofList tail with
  | none =>
    refine .inr ⟨fun s hs tail htail hrest => ?_, by simp⟩
    have hnone := List.findSome?_eq_none_iff.1 hfind s hs
    rw [restAfter?_eq_some_iff.2 ⟨htail, hrest⟩] at hnone
    cases hnone
  | some path =>
    obtain ⟨s, hs, hpath⟩ := List.exists_of_findSome?_eq_some hfind
    obtain ⟨tail, htail, rfl⟩ := Option.map_eq_some_iff.1 hpath
    obtain ⟨hne, hrest⟩ := restAfter?_eq_some_iff.1 htail
    exact .inl ⟨s, hs, tail, hne, hrest, by simp⟩

/-- Up to blanks after it, the name is a start, a section, an underscore and a key. -/
theorem keysOf?_eq {name : String} {start rest : List Char} (htrim : trim name.toList = start ++ rest)
    (hstart : start.map Char.toLower = nameStart) :
    keysOf? name =
      let keys := splitAll '.' ((trim (keyPath (String.ofList rest)).toList).map Char.toLower)
      if keys.any List.isEmpty then none else some (keys.map String.ofList) := by
  have hlength : nameStart.length = start.length := by rw [← hstart, List.length_map]
  unfold keysOf?
  simp only [htrim, hlength, List.splitAt_eq, List.take_left, List.drop_left, hstart]
  simp

theorem not_dot_mem_map_toLower {cs : List Char} (h : '.' ∉ cs) : '.' ∉ cs.map Char.toLower := by
  intro hmem
  obtain ⟨c, hc, hdot⟩ := List.mem_map.1 hmem
  exact h (eq_dot_of_toLower hdot ▸ hc)

theorem trimEnd_sublist (cs : List Char) : (trimEnd cs).Sublist cs := by
  unfold trimEnd
  simpa using (List.dropWhile_sublist isSpace (l := cs.reverse)).reverse

theorem trim_sublist (cs : List Char) : (trim cs).Sublist cs :=
  (trimEnd_sublist _).trans (List.dropWhile_sublist isSpace)

theorem exists_cons_of_map_toLower {cs ds : List Char} {d : Char}
    (h : cs.map Char.toLower = d :: ds) (hd : isSpace d = false) :
    ∃ c rest, cs = c :: rest ∧ isSpace c = false := by
  obtain ⟨c, rest, rfl, hc, -⟩ := List.map_eq_cons_iff.1 h
  exact ⟨c, rest, rfl, by rw [← isSpace_toLower, hc, hd]⟩

/-- Only what follows the underscore can lose blanks at its end. -/
theorem trim_of_cons {c d : Char} {cs ds : List Char} (hc : isSpace c = false)
    (hd : isSpace d = false) : trim (c :: cs ++ d :: ds) = c :: cs ++ d :: trimEnd ds := by
  unfold trim
  rw [List.cons_append, trimStart_cons hc, ← List.cons_append, trimEnd_append_cons hd]

theorem split_section {s : String} (hs : s ∈ sectionNames) {tail : List Char} (htail : '.' ∉ tail) :
    splitAll '.' ((trim (s.toList ++ '.' :: tail)).map Char.toLower) =
      [s.toList, (trimEnd tail).map Char.toLower] := by
  obtain ⟨hlower, hdot, -, c, cs, hcs, hspace⟩ := letters_of_mem_sectionNames hs
  have htrim : '.' ∉ trimEnd tail := fun hmem => htail ((trimEnd_sublist tail).subset hmem)
  have hmark : Char.toLower '.' = '.' := rfl
  rw [hcs, trim_of_cons hspace rfl, ← hcs, List.map_append, hlower, List.map_cons, hmark,
    splitAll_append_sep, splitAll_eq_singleton hdot,
    splitAll_eq_singleton (not_dot_mem_map_toLower htrim)]
  rfl

/-- What follows the mark, if there is no dot in it, is read as a section and a key or as one key. -/
theorem keysOf?_cases {name : String} {start rest : List Char}
    (htrim : trim name.toList = start ++ rest) (hstart : start.map Char.toLower = nameStart)
    (hdot : '.' ∉ rest) {keys : List String} (hkeys : keysOf? name = some keys) :
    (∃ s ∈ sectionNames, ∃ tail, rest = s.toList ++ '_' :: tail ∧
      keys = [s, String.ofList ((trimEnd tail).map Char.toLower)]) ∨
      keys = [String.ofList ((trim rest).map Char.toLower)] := by
  rw [keysOf?_eq htrim hstart] at hkeys
  rcases keyPath_cases rest with ⟨s, hs, tail, -, hrest, hpath⟩ | ⟨-, hpath⟩
  · have hdots : '.' ∉ tail := fun hmem => hdot (hrest ▸ by simp [hmem])
    simp only [hpath, split_section hs hdots] at hkeys
    split at hkeys
    · cases hkeys
    · cases hkeys
      exact .inl ⟨s, hs, tail, hrest, by simp⟩
  · have hdots : '.' ∉ trim rest := fun hmem => hdot ((trim_sublist rest).subset hmem)
    simp only [hpath, splitAll_eq_singleton (not_dot_mem_map_toLower hdots)] at hkeys
    split at hkeys
    · cases hkeys
    · cases hkeys
      exact .inr rfl

/-- A variable for a key of a section sets this key, or one that no section holds. -/
theorem keys_of_namesKey {name : String} (h : NamesKey name) {keys : List String}
    (hkeys : keysOf? name = some keys) :
    (∃ s ∈ sectionNames, ∃ key, keys = [s, key]) ∨ ∃ key, keys = [key] ∧ key ∉ sectionNames := by
  obtain ⟨start, sec, key, hname, hstart, hsec, hdot⟩ := h
  obtain ⟨-, hlowerdot, -, d, ds, hds, hspace⟩ := letters_of_mem_sectionNames hsec
  rw [String.toList_ofList] at hlowerdot hds
  obtain ⟨c, cs, rfl, hc⟩ := exists_cons_of_map_toLower hds hspace
  obtain ⟨t, ts, rfl, ht⟩ := exists_cons_of_map_toLower hstart rfl
  have htrim : trim name.toList = (t :: ts) ++ (c :: cs ++ '_' :: trimEnd key) := by
    rw [hname, List.append_assoc, List.cons_append, ← List.append_assoc, ← List.cons_append,
      trim_of_cons ht rfl]
    simp
  have hrest : '.' ∉ c :: cs ++ '_' :: trimEnd key := by
    have hsecdot : '.' ∉ c :: cs := fun hmem =>
      hlowerdot (List.mem_map_of_mem (f := Char.toLower) hmem)
    have hkeydot : '.' ∉ trimEnd key := fun hmem => hdot ((trimEnd_sublist key).subset hmem)
    simp only [List.mem_append, List.mem_cons (b := '_'), not_or]
    exact ⟨hsecdot, by decide, hkeydot⟩
  rcases keysOf?_cases htrim hstart hrest hkeys with ⟨s, hs, tail, -, rfl⟩ | rfl
  · exact .inl ⟨s, hs, _, rfl⟩
  · rw [trim_of_cons hc rfl]
    -- an underscore is left, and sections have none
    exact .inr ⟨_, rfl, fun hmem => (letters_of_mem_sectionNames hmem).2.2.1 (by simp)⟩

/-! What a variable holds is no null and has none in its tables. -/

section Values

open Text.Reader Settings Tree

variable {α : Type} {p : α → Prop}

theorem yields_bracketed {opening closing : Char} {item : Reader α} (h : Yields item p) :
    Yields (bracketed opening closing item) fun as => ∀ a ∈ as, p a := by
  refine yields_bind fun _ => yields_bind fun done => ?_
  split
  · exact yields_bind fun _ => yields_pure nofun
  · refine h.bind fun first hfirst => (yields_many ?_).bind fun rest hrest =>
      yields_bind fun _ => yields_bind fun _ => yields_pure (List.forall_mem_cons.2 ⟨hfirst, hrest⟩)
    refine yields_bind fun _ => yields_bind fun last => ?_
    split
    · exact yields_failure
    · exact h

theorem yields_pairOf {value : Reader Tree} {p : Tree → Prop} (h : Yields value p) :
    Yields (pairOf value) fun pair => p pair.2 := by
  refine yields_bind fun _ => yields_bind fun quoted => ?_
  have hrest : ∀ key : List Char, Yields (do blanks; char '='; let t ← value; pure (String.ofList key, t))
      fun pair => p pair.2 := fun key =>
    yields_bind fun _ => yields_bind fun _ => h.bind fun t ht => yields_pure ht
  split
  · exact yields_bind hrest
  · exact yields_bind hrest

theorem not_isNull_plain (text : List Char) : ¬(valueTo.scalar (plain text)).IsNull := by
  unfold plain
  split
  · exact id
  · split <;> exact id

theorem yields_valueTo (depth : Nat) : Yields (valueTo depth) fun t => ¬t.IsNull ∧ t.Filled := by
  induction depth with
  | zero => exact yields_failure
  | succ depth ih =>
    refine yields_bind fun _ => (yields_orElse ?_ (yields_orElse ?_ ?_)).bind fun t ht =>
      yields_bind fun _ => yields_pure ht
    · exact yields_bind fun _ => yields_pure ⟨id, trivial⟩
    · exact yields_bind fun _ => yields_pure ⟨id, trivial⟩
    · refine yields_bind fun found => ?_
      split
      · exact (yields_bracketed (yields_pairOf ih)).bind fun pairs hpairs =>
          yields_pure ⟨id, Keyed.ordered_ofList pairs, filledEntries_ofList hpairs⟩
      · exact (yields_bracketed ih).bind fun items _ => yields_pure ⟨id, trivial⟩
      · exact yields_bind fun _ => yields_pure ⟨id, trivial⟩
      · exact yields_bind fun _ => yields_bind fun _ => yields_bind fun _ =>
          yields_pure ⟨id, trivial⟩
      · exact yields_bind fun text => yields_pure ⟨not_isNull_plain _, trivial⟩

theorem filled_valueOf (text : String) : ¬(valueOf text).IsNull ∧ (valueOf text).Filled := by
  unfold valueOf
  cases hrun : (valueTo (text.length + 1)).run text.toList with
  | none => exact ⟨id, trivial⟩
  | some t => exact (yields_valueTo _).of_run hrun

end Values

/-! The layer of the environment gives what each variable sets. -/

section Layers

open Settings Tree

/-- Variables with settings name keys of sections, no two of them the same one. -/
structure KeyByKey (env : Environment) : Prop where
  named : ∀ v ∈ env, keysOf? v.1 = none ∨ NamesKey v.1
  apart : env.Pairwise fun v w =>
    ∀ name key, keysOf? v.1 = some [name, key] → keysOf? w.1 ≠ some [name, key]

def given? (env : Environment) (name key : String) : Option Tree :=
  env.findSome? fun v => if keysOf? v.1 = some [name, key] then some (valueOf v.2) else none

def variableLayer (v : String × String) : Layer :=
  match keysOf? v.1 with
  | some (key :: rest) => [(key, nest rest (valueOf v.2))]
  | _ => []

theorem layer_eq_foldl (env : Environment) :
    env.layer = (env.map variableLayer).foldl Tree.layEntries [] := by
  rw [List.foldl_map]
  unfold layer
  congr 1
  funext entries v
  unfold layer.add variableLayer
  rcases keysOf? v.1 with _ | _ | ⟨key, rest⟩
  · exact (Tree.layEntries.eq_1 entries).symm
  · exact (Tree.layEntries.eq_1 entries).symm
  · rfl

variable {v : String × String}

theorem variableLayer_cases (h : keysOf? v.1 = none ∨ NamesKey v.1) :
    (keysOf? v.1 = none ∧ variableLayer v = []) ∨
      (∃ s ∈ sectionNames, ∃ key, keysOf? v.1 = some [s, key] ∧
        variableLayer v = [(s, .table (some .environment) [(key, valueOf v.2)])]) ∨
      ∃ key, key ∉ sectionNames ∧ keysOf? v.1 = some [key] ∧
        variableLayer v = [(key, valueOf v.2)] := by
  unfold variableLayer
  cases hkeys : keysOf? v.1 with
  | none => exact .inl ⟨rfl, rfl⟩
  | some keys =>
    rcases keys_of_namesKey (h.resolve_left (by simp [hkeys])) hkeys with
      ⟨s, hs, key, rfl⟩ | ⟨key, rfl, hkey⟩
    · exact .inr (.inl ⟨s, hs, key, rfl, rfl⟩)
    · exact .inr (.inr ⟨key, hkey, rfl, rfl⟩)

theorem name_mem_sectionNames {c : Section} (hc : c ∈ Section.all) : c.name ∈ sectionNames :=
  List.mem_map_of_mem (f := Section.name) hc

theorem sectioned_nil : Sectioned [] where
  ordered := Keyed.ordered_nil
  table _ _ := nofun
  keys _ _ := Keyed.ordered_nil

theorem sectioned_variableLayer (h : keysOf? v.1 = none ∨ NamesKey v.1) :
    Sectioned (variableLayer v) := by
  rcases variableLayer_cases h with ⟨-, hlayer⟩ | ⟨s, -, key, -, hlayer⟩ | ⟨key, hkey, -, hlayer⟩ <;>
    rw [hlayer]
  · exact sectioned_nil
  · refine ⟨List.pairwise_singleton _ _, fun c _ t ht => ?_, fun c _ => ?_⟩
    · by_cases hs : s = c.name
      · simp only [Keyed.get?, if_pos hs, Option.some.injEq] at ht
        exact ht ▸ trivial
      · simp [Keyed.get?, hs] at ht
    · rw [sectionOf_singleton]
      split
      · exact List.pairwise_singleton _ _
      · exact Keyed.ordered_nil
  · have hnone : ∀ c ∈ Section.all, Keyed.get? c.name [(key, valueOf v.2)] = none := fun c hc => by
      have hne : key ≠ c.name := fun heq => hkey (heq ▸ name_mem_sectionNames hc)
      simp [Keyed.get?, hne]
    refine ⟨List.pairwise_singleton _ _, fun c hc t ht => ?_, fun c hc => ?_⟩
    · rw [hnone c hc] at ht
      cases ht
    · rw [sectionOf_of_none (hnone c hc)]
      exact Keyed.ordered_nil

theorem given?_variableLayer (h : keysOf? v.1 = none ∨ NamesKey v.1) {c : Section}
    (hc : c ∈ Section.all) (key : String) :
    Settings.given? (variableLayer v) c.name key =
      if keysOf? v.1 = some [c.name, key] then some (valueOf v.2) else none := by
  unfold Settings.given?
  rcases variableLayer_cases h with ⟨hkeys, hlayer⟩ | ⟨s, -, k, hkeys, hlayer⟩ |
    ⟨k, hk, hkeys, hlayer⟩ <;> rw [hlayer, hkeys]
  · rfl
  · rw [sectionOf_singleton]
    by_cases hs : s = c.name <;> simp [Keyed.get?, hs]
  · have hne : k ≠ c.name := fun heq => hk (heq ▸ name_mem_sectionNames hc)
    rw [sectionOf_of_none (by simp [Keyed.get?, hne])]
    simp [Keyed.get?]

end Layers

/-! A variable for a key is neither of those that say where the user's file is, and setting it changes
nothing for other keys. -/

theorem prefix_of_namesKey {name : String} (h : NamesKey name) :
    nameStart <+: name.toList.map Char.toLower := by
  obtain ⟨start, sec, key, hname, hstart, -, -⟩ := h
  rw [hname, List.append_assoc, List.map_append, hstart]
  exact List.prefix_append _ _

variable {name value : String}

theorem get?_set {other : String} (h : name ≠ other) (env : Environment) :
    (env.set name value).get? other = env.get? other := by
  unfold get?
  congr 1
  induction env with
  | nil => simp [set, h]
  | cons v rest ih =>
    rw [set]
    split
    · next heq => simp [heq, h]
    · rw [List.find?_cons, List.find?_cons, ih]

theorem given?_set {s key : String} (h : keysOf? name ≠ some [s, key]) (env : Environment) :
    (env.set name value).given? s key = env.given? s key := by
  unfold given?
  induction env with
  | nil => simp [set, h]
  | cons v rest ih =>
    rw [set]
    split
    · next heq => simp [heq, h]
    · rw [List.findSome?_cons, List.findSome?_cons, ih]

end Environment

end PluginHost
