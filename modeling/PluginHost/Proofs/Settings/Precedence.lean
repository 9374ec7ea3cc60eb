import PluginHost.FileTree.Change
import PluginHost.Proofs.Settings.Defaults
import PluginHost.Proofs.Settings.Variables

/-!
Which layer a field has its value from. Each key of each section has the value of the topmost layer
that gives it one, whatever else the layers hold.
-/
namespace PluginHost.Settings

open Decoded Settings.Tree

namespace Tree

variable {start : Option Tree} {trees : List (Option Tree)}

theorem eq_none_of_laid? {lower upper : Option Tree} (h : laid? lower upper = none) :
    lower = none ∧ upper = none := by
  cases lower with
  | none => exact ⟨rfl, h⟩
  | some lower => cases upper <;> cases h

theorem topmost_of_foldl_laid? {t : Tree} (h : trees.foldl laid? start = some t) (ht : ¬t.IsTable) :
    (trees.reverse.findSome? id).or start = some t := by
  induction trees generalizing start with
  | nil => exact h
  | cons upper rest ih =>
    have hrest := ih h
    rw [List.reverse_cons, List.findSome?_append, Option.or_assoc]
    cases hfound : rest.reverse.findSome? id with
    | some found => simpa [hfound] using hrest
    | none =>
      rw [hfound, Option.none_or] at hrest
      simpa using or_of_laid? hrest ht

theorem eq_none_of_foldl_laid? (h : trees.foldl laid? start = none) :
    start = none ∧ ∀ t ∈ trees, t = none := by
  induction trees generalizing start with
  | nil => exact ⟨h, nofun⟩
  | cons upper rest ih =>
    obtain ⟨hlaid, hrest⟩ := ih h
    obtain ⟨hstart, hupper⟩ := eq_none_of_laid? hlaid
    exact ⟨hstart, List.forall_mem_cons.2 ⟨hupper, hrest⟩⟩

theorem filled_laid? {lower upper : Option Tree} (hlower : ∀ t ∈ lower, t.Filled)
    (hupper : ∀ t ∈ upper, t.Filled) : ∀ t ∈ laid? lower upper, t.Filled := by
  cases lower with
  | none => exact hupper
  | some lower =>
    cases upper with
    | none => exact hlower
    | some upper =>
      rintro _ ⟨⟩
      exact filled_layOver lower upper (hlower lower rfl) (hupper upper rfl)

theorem filled_foldl_laid? (hstart : ∀ t ∈ start, t.Filled)
    (htrees : ∀ tree ∈ trees, ∀ t ∈ tree, t.Filled) : ∀ t ∈ trees.foldl laid? start, t.Filled := by
  induction trees generalizing start with
  | nil => exact hstart
  | cons upper rest ih =>
    obtain ⟨hupper, hrest⟩ := List.forall_mem_cons.1 htrees
    exact ih (filled_laid? hstart hupper) hrest

theorem foldl_laid?_none (h : trees.Pairwise fun s t => s = none ∨ t = none) :
    trees.foldl laid? none = trees.findSome? id := by
  have hkeep : ∀ (trees : List (Option Tree)) (start : Option Tree), (∀ t ∈ trees, t = none) →
      trees.foldl laid? start = start := by
    intro trees
    induction trees with
    | nil => exact fun _ _ => rfl
    | cons t rest ih =>
      intro start hnone
      obtain ⟨rfl, hrest⟩ := List.forall_mem_cons.1 hnone
      rw [List.foldl_cons, laid?_none, ih start hrest]
  induction trees with
  | nil => rfl
  | cons first rest ih =>
    obtain ⟨hfirst, hrest⟩ := List.pairwise_cons.1 h
    cases first with
    | none => exact ih hrest
    | some t =>
      exact hkeep rest (some t) fun u hu => (hfirst u hu).resolve_left (Option.some_ne_none t)

end Tree

/-! What is read as the value of a field is no table: choices, too, are read from a table only if it
holds a null. -/

namespace Decoded

variable {α : Type} {o : Option Origin} {entries : Layer}

theorem choice_table_ne_ok {c : Choice α} (h : FilledEntries entries) {a : α} :
    choice .layered c (.table o entries) ≠ .ok a := by
  cases entries with
  | nil => nofun
  | cons e rest =>
    obtain ⟨name, content⟩ := e
    intro hread
    obtain ⟨b, -, hcontent⟩ := Except.bind_eq_ok_iff.1 (below_eq_ok_iff.1 hread)
    split at hcontent
    · exact h.1.1 trivial
    · cases hcontent

/-- A table without nulls is not read as the field. -/
def Slot.RefusesTables {ρ : Type} (p : Slot ρ) : Prop :=
  ∀ o entries, FilledEntries entries → ∀ a, p.read (.table o entries) ≠ .ok a

end Decoded

theorem refusesTables_discovery : ∀ p ∈ discoverySlots .layered, p.RefusesTables := by
  simp only [discoverySlots, List.forall_mem_cons]
  exact ⟨fun _ _ h _ => choice_table_ne_ok h, nofun, nofun, nofun, nofun, nofun⟩

theorem refusesTables_cache : ∀ p ∈ cacheSlots, p.RefusesTables := by
  simp only [cacheSlots, List.forall_mem_cons]
  exact ⟨nofun, nofun, nofun⟩

theorem refusesTables_manager : ∀ p ∈ managerSlots .layered, p.RefusesTables := by
  simp only [managerSlots, List.forall_mem_cons]
  exact ⟨fun _ _ h _ => choice_table_ne_ok h, nofun, nofun, nofun, nofun⟩

theorem refusesTables_logging : ∀ p ∈ loggingSlots, p.RefusesTables := by
  simp only [loggingSlots, List.forall_mem_cons]
  exact ⟨nofun, nofun⟩

theorem Section.refusesTables : ∀ c ∈ all, ∀ p ∈ c.slots .layered, p.RefusesTables :=
  forall_mem_all.2
    ⟨refusesTables_discovery, refusesTables_cache, refusesTables_manager, refusesTables_logging⟩

theorem Section.not_isTable_of_read {c : Section} (hc : c ∈ all) {p : Slot c.Content}
    (hp : p ∈ c.slots .layered) {t : Tree} (ht : t.Filled) {a : p.Content}
    (hread : p.read t = .ok a) : ¬t.IsTable := by
  cases t with
  | scalar | list => exact id
  | table o entries => exact absurd hread (refusesTables c hc p hp o entries ht.2 a)

/-- Whatever a layer gives for a key of a section has no nulls in its tables. -/
def FilledLeaves (layer : Layer) : Prop :=
  ∀ c ∈ Section.all, ∀ key, ∀ t ∈ given? layer c.name key, t.Filled

theorem filledLeaves_defaultLayer : FilledLeaves defaultLayer := by
  intro c hc key t ht
  have hleaf := Section.not_isTable_default hc ht
  cases t with
  | table => exact absurd trivial hleaf
  | scalar | list => trivial

variable {layers : List Layer} {base : Layer}

theorem sectioned_foldl (hbase : Sectioned base) (h : ∀ layer ∈ layers, Sectioned layer) :
    Sectioned (layers.foldl Tree.layEntries base) := by
  induction layers generalizing base with
  | nil => exact hbase
  | cons layer rest ih =>
    obtain ⟨hlayer, hrest⟩ := List.forall_mem_cons.1 h
    exact ih (hbase.layEntries hlayer) hrest

theorem given?_foldl (hbase : Sectioned base) (h : ∀ layer ∈ layers, Sectioned layer) {c : Section}
    (hc : c ∈ Section.all) (key : String) :
    given? (layers.foldl Tree.layEntries base) c.name key =
      (layers.map (given? · c.name key)).foldl laid? (given? base c.name key) := by
  induction layers generalizing base with
  | nil => rfl
  | cons layer rest ih =>
    obtain ⟨hlayer, hrest⟩ := List.forall_mem_cons.1 h
    rw [List.foldl_cons, ih (hbase.layEntries hlayer) hrest, hbase.given?_layEntries hlayer hc]
    rfl

/-- Each field has the value of the topmost layer that gives one, and otherwise the default. -/
theorem shows_of_ofLayers (hlayers : ∀ layer ∈ layers, Sectioned layer ∧ FilledLeaves layer)
    {s : Settings} (hs : ofLayers (layers.map .ok) = .ok s) {c : Section} (hc : c ∈ Section.all)
    {p : Slot c.Content} (hp : p ∈ c.slots .layered) :
    p.Shows c.start (layers.reverse.findSome? (given? · c.name p.name)) (c.get s) := by
  have hsectioned := fun layer hlayer => (hlayers layer hlayer).1
  obtain ⟨ls, hls, hdecode⟩ := ofLayers_eq_ok_iff.1 hs
  obtain rfl : layers = ls := (List.map_inj_right fun _ _ => Except.ok.inj).1 hls
  have hread := (((sectioned_foldl sectioned_defaultLayer hsectioned).decode_eq_ok_iff.1
    hdecode).2 c hc).2 p hp
  rw [given?_foldl sectioned_defaultLayer hsectioned hc] at hread
  have hfound : layers.reverse.findSome? (given? · c.name p.name) =
      (layers.map (given? · c.name p.name)).reverse.findSome? id := by
    rw [← List.map_reverse, List.findSome?_map]
    rfl
  rw [hfound]
  cases htop : (layers.map (given? · c.name p.name)).foldl laid?
      (given? defaultLayer c.name p.name) with
  | none =>
    rw [htop] at hread
    have hnone : (layers.map (given? · c.name p.name)).reverse.findSome? id = none :=
      List.findSome?_eq_none_iff.2 fun t ht => (eq_none_of_foldl_laid? htop).2 t (List.mem_reverse.1 ht)
    rw [hnone]
    exact hread
  | some t =>
    rw [htop] at hread
    have hfilled : t.Filled := by
      refine filled_foldl_laid? (filledLeaves_defaultLayer c hc p.name) (fun tree htree => ?_) t htop
      obtain ⟨layer, hlayer, rfl⟩ := List.mem_map.1 htree
      exact (hlayers layer hlayer).2 c hc p.name
    have htable := Section.not_isTable_of_read hc hp hfilled hread
    have hfirst := topmost_of_foldl_laid? htop htable
    cases hgiven : (layers.map (given? · c.name p.name)).reverse.findSome? id with
    | some u =>
      rw [hgiven] at hfirst
      exact Option.some.inj hfirst ▸ hread
    | none =>
      rw [hgiven, Option.none_or] at hfirst
      have hdefault := (shows_defaultLayer.2 c hc).2 p hp
      rw [hfirst, Section.get_default c hc] at hdefault
      exact Except.ok.inj (hread.symm.trans hdefault)

theorem Proper.sectioned {layer : Layer} (h : Proper layer)
    (htable : ∀ c ∈ Section.all, TableAt layer c.name) : Sectioned layer where
  ordered := h.1
  table := htable
  keys c hc := by
    rcases (htable c hc).cases with hnone | ⟨o, entries, hget⟩
    · rw [sectionOf_of_none hnone]
      exact Keyed.ordered_nil
    · rw [sectionOf_of_table hget]
      exact (filledEntries_iff.1 h.2 _ (Keyed.mem_of_get? hget)).2.1

theorem Proper.filledLeaves {layer : Layer} (h : Proper layer)
    (htable : ∀ c ∈ Section.all, TableAt layer c.name) : FilledLeaves layer := by
  intro c hc key t ht
  unfold given? at ht
  rcases (htable c hc).cases with hnone | ⟨o, entries, hget⟩
  · rw [sectionOf_of_none hnone] at ht
    cases ht
  · rw [sectionOf_of_table hget] at ht
    have hentries := (filledEntries_iff.1 h.2 _ (Keyed.mem_of_get? hget)).2.2
    exact (filledEntries_iff.1 hentries _ (Keyed.mem_of_get? ht)).2

open Environment

variable {env : Environment}

theorem sectioned_layer (h : env.KeyByKey) : Sectioned env.layer := by
  rw [layer_eq_foldl]
  refine sectioned_foldl sectioned_nil (List.forall_mem_map.2 fun v hv => ?_)
  exact sectioned_variableLayer (h.named v hv)

theorem given?_layer (h : env.KeyByKey) {c : Section} (hc : c ∈ Section.all) (key : String) :
    given? env.layer c.name key = env.given? c.name key := by
  have hsectioned : ∀ layer ∈ env.map variableLayer, Sectioned layer :=
    List.forall_mem_map.2 fun v hv => sectioned_variableLayer (h.named v hv)
  have hgiven : (env.map variableLayer).map (given? · c.name key) =
      env.map fun v => if keysOf? v.1 = some [c.name, key] then some (valueOf v.2) else none := by
    rw [List.map_map]
    refine List.map_congr_left fun v hv => ?_
    rw [Function.comp_apply, given?_variableLayer (h.named v hv) hc]
  rw [layer_eq_foldl, given?_foldl sectioned_nil hsectioned hc, hgiven]
  refine (foldl_laid?_none (List.pairwise_map.2 (h.apart.imp fun {v w} hvw => ?_))).trans ?_
  · by_cases hv : keysOf? v.1 = some [c.name, key]
    · exact .inr (if_neg (hvw c.name key hv))
    · exact .inl (if_neg hv)
  · rw [List.findSome?_map]
    rfl

theorem filledLeaves_layer (h : env.KeyByKey) : FilledLeaves env.layer := by
  intro c hc key t ht
  rw [given?_layer h hc] at ht
  obtain ⟨v, -, hv⟩ := List.exists_of_findSome?_eq_some ht
  split at hv
  · cases hv
    exact (filled_valueOf v.2).2
  · cases hv

variable {files : FileTree} {account : Option Path} {system user near : Layer}

theorem shows_ofHost (henv : env.KeyByKey) (hsystem : fileLayer files systemPath = .ok system)
    (huser : userLayer files env account = .ok user)
    (hnear : fileLayer files localName = .ok near)
    (htables : ∀ layer ∈ [system, user, near], ∀ c ∈ Section.all, TableAt layer c.name)
    {s : Settings} (hs : ofHost files env account = .ok s) {c : Section} (hc : c ∈ Section.all)
    {p : Slot c.Content} (hp : p ∈ c.slots .layered) :
    p.Shows c.start
      ((env.given? c.name p.name).or
        ([near, user, system].findSome? (given? · c.name p.name))) (c.get s) := by
  have hofHost : ofHost files env account = ofLayers ([system, user, near, env.layer].map .ok) := by
    unfold ofHost
    rw [hsystem, huser, hnear]
    rfl
  have hproper : ∀ layer ∈ [system, user, near], Proper layer := by
    simp only [List.forall_mem_cons]
    exact ⟨proper_fileLayer hsystem, proper_fileLayer huser, proper_fileLayer hnear, nofun⟩
  have hlayers : ∀ layer ∈ [system, user, near] ++ [env.layer],
      Sectioned layer ∧ FilledLeaves layer := by
    refine List.forall_mem_append.2 ⟨fun layer hlayer => ?_, List.forall_mem_cons.2 ⟨?_, nofun⟩⟩
    · exact ⟨(hproper layer hlayer).sectioned (htables layer hlayer),
        (hproper layer hlayer).filledLeaves (htables layer hlayer)⟩
    · exact ⟨sectioned_layer henv, filledLeaves_layer henv⟩
  have hshows := shows_of_ofLayers hlayers (hofHost.symm.trans hs) hc hp
  have htop : ([system, user, near] ++ [env.layer]).reverse.findSome? (given? · c.name p.name) =
      (env.given? c.name p.name).or ([near, user, system].findSome? (given? · c.name p.name)) := by
    rw [← given?_layer henv hc, List.reverse_append, List.findSome?_append]
    simp
  rwa [htop] at hshows

theorem userPath_set {name : String} (h : NamesKey name) (value : String) (account : Option Path) :
    userPath (env.set name value) account = userPath env account := by
  have hne : ∀ other : String, ¬nameStart <+: other.toList.map Char.toLower → name ≠ other :=
    fun other hother heq => hother (heq ▸ prefix_of_namesKey h)
  unfold userPath userDirectory userDirectory.atHome home
  rw [get?_set (hne "XDG_CONFIG_HOME" (by decide)), get?_set (hne "HOME" (by decide))]

theorem locate?_localName (h : files.isFile ((FileTree.pathOf files.here).join localName)) :
    locate? files localName = some ((FileTree.pathOf files.here).join localName) := by
  have hrelative : ¬localName.isAbsolute := by decide +kernel
  obtain ⟨above, habove⟩ : ∃ above, upward files.here.length files.here = files.here :: above := by
    cases files.here.length with
    | zero => exact ⟨[], rfl⟩
    | succ n => exact ⟨upward n files.here.dropLast, rfl⟩
  unfold locate?
  rw [if_neg hrelative, habove, List.map_cons]
  exact List.find?_cons_of_pos h

/-- Each key of each section has the value that its variable gives, or else the local file, the file
of the user, that of the machine or the default; the local file is the one in the working directory
or, if there is none, the nearest above it. A variable that is set changes no other key. -/
theorem ofHost_topmost (files : FileTree) (env : Environment) (account : Option Path)
    (system user near : Layer) (s : Settings) (henv : env.KeyByKey)
    (hsystem : fileLayer files systemPath = .ok system)
    (huser : userLayer files env account = .ok user)
    (hnear : fileLayer files localName = .ok near)
    (htables : ∀ layer ∈ [system, user, near], ∀ c ∈ Section.all, TableAt layer c.name)
    (hs : ofHost files env account = .ok s) :
    (∀ c ∈ Section.all, ∀ p ∈ c.slots .layered,
      p.Shows c.start
        ((env.given? c.name p.name).or
          ([near, user, system].findSome? (given? · c.name p.name))) (c.get s)) ∧
    (files.isFile ((FileTree.pathOf files.here).join localName) →
      locate? files localName = some ((FileTree.pathOf files.here).join localName)) ∧
    ∀ name value s', NamesKey name → (env.set name value).KeyByKey →
      ofHost files (env.set name value) account = .ok s' →
        ∀ c ∈ Section.all, ∀ p ∈ c.slots .layered, keysOf? name ≠ some [c.name, p.name] →
          p.get (c.get s') = p.get (c.get s) := by
  refine ⟨fun c hc p hp => shows_ofHost henv hsystem huser hnear htables hs hc hp,
    locate?_localName, fun name value s' hname henv' hs' c hc p hp hkeys => ?_⟩
  have huser' : userLayer files (env.set name value) account = .ok user := by
    rwa [userLayer, userPath_set hname value]
  have hshows := shows_ofHost henv hsystem huser hnear htables hs hc hp
  have hshows' := shows_ofHost henv' hsystem huser' hnear htables hs' hc hp
  rw [given?_set hkeys] at hshows'
  exact Slot.eq_of_shows hshows' hshows

def filesAbove : FileTree :=
  (FileTree.ofHere ["w"]).write ⟨"/trellis.toml"⟩ "[cache]\nkey_suffix='parent'\n".toUTF8 5

def layerAbove : Layer :=
  let o : Origin := .file ⟨"/trellis.toml"⟩
  [("cache", .table o [("key_suffix", .scalar o (.str "parent"))])]

def atHome : Environment := [("HOME", "/home")]

theorem fileLayer_of_locate?_eq_none {p : Path} (h : locate? files p = none) :
    fileLayer files p = .ok [] := by
  unfold fileLayer
  rw [h]
  rfl

theorem fileLayer_systemPath_above : fileLayer filesAbove systemPath = .ok [] :=
  fileLayer_of_locate?_eq_none (by decide +kernel)

theorem fileLayer_localName_above : fileLayer filesAbove localName = .ok layerAbove := by
  have hfound : locate? filesAbove localName = some ⟨"/trellis.toml"⟩ := by decide +kernel
  have htext : fileText filesAbove ⟨"/trellis.toml"⟩ = .ok "[cache]\nkey_suffix='parent'\n" := by
    with_unfolding_all rfl
  have hread : Toml.read "[cache]\nkey_suffix='parent'\n".toList =
      some [("cache", .table [("key_suffix", .str "parent")])] := by decide +kernel
  unfold fileLayer
  rw [hfound]
  simp only [htext]
  exact layerOf_eq_ok_iff.2 ⟨_, hread, rfl⟩

theorem userLayer_above : userLayer filesAbove atHome none = .ok [] := by
  have huser : userPath atHome = some ⟨"/home/.config/trellis/trellis.toml"⟩ := by decide +kernel
  rw [userLayer, huser]
  exact fileLayer_of_locate?_eq_none (by decide +kernel)

def sampleVariables : Environment := atHome.set "TRELLIS_cache_enabled" "false"

theorem namesKey_cache_enabled : NamesKey "TRELLIS_cache_enabled" :=
  ⟨"TRELLIS_".toList, "cache".toList, "enabled".toList, rfl, rfl, by decide, by decide⟩

theorem keysOf?_home : keysOf? "HOME" = none := by decide +kernel

theorem keysOf?_cache_enabled : keysOf? "TRELLIS_cache_enabled" = some ["cache", "enabled"] := by
  decide +kernel

theorem valueOf_false : valueOf "false" = .scalar (some .environment) (.bool false) := by rfl

theorem sampleVariables_eq :
    sampleVariables = [("HOME", "/home"), ("TRELLIS_cache_enabled", "false")] := rfl

theorem keyByKey_sampleVariables : sampleVariables.KeyByKey where
  named := by
    rw [sampleVariables_eq]
    exact List.forall_mem_cons.2
      ⟨.inl keysOf?_home, List.forall_mem_cons.2 ⟨.inr namesKey_cache_enabled, nofun⟩⟩
  apart := by simp [sampleVariables_eq, keysOf?_home]

theorem layer_sampleVariables :
    sampleVariables.layer =
      [("cache", .table (some .environment)
        [("enabled", .scalar (some .environment) (.bool false))])] := by
  simp [layer, layer.add, sampleVariables_eq, keysOf?_home, keysOf?_cache_enabled, valueOf_false,
    nest, Tree.layEntries, Keyed.get?, Keyed.insert]

theorem given?_sampleVariables (name key : String) :
    sampleVariables.given? name key =
      if ["cache", "enabled"] = [name, key] then some (.scalar (some .environment) (.bool false))
      else none := by
  simp [Environment.given?, sampleVariables_eq, keysOf?_home, keysOf?_cache_enabled,
    valueOf_false]

theorem suffix_above_beside_variable :
    ∃ s, ofHost filesAbove sampleVariables = .ok s ∧ s.cache.enabled = false ∧
      s.cache.keySuffix = "parent" ∧ s.logging.level = "info" := by
  have huser : userLayer filesAbove sampleVariables none = .ok [] := by
    rw [userLayer, sampleVariables, userPath_set namesKey_cache_enabled]
    exact userLayer_above
  obtain ⟨s, hs⟩ : ∃ s, ofHost filesAbove sampleVariables = .ok s := by
    unfold ofHost
    rw [fileLayer_systemPath_above, huser, fileLayer_localName_above, layer_sampleVariables]
    exact ⟨_, rfl⟩
  have htables : ∀ layer ∈ [[], [], layerAbove], ∀ c ∈ Section.all, TableAt layer c.name := by
    simp only [List.forall_mem_cons]
    exact ⟨nofun, nofun, fun c _ => tableAt_of_forall (by decide) c.name, nofun⟩
  obtain ⟨hshows, -, -⟩ := ofHost_topmost filesAbove sampleVariables none [] [] layerAbove s
    keyByKey_sampleVariables fileLayer_systemPath_above huser fileLayer_localName_above htables hs
  obtain ⟨-, hcache, -, hlogging⟩ := Section.forall_mem_all.1 hshows
  have henabledShown := hcache _ List.mem_cons_self
  have hsuffixShown := hcache _ (List.mem_cons_of_mem _ List.mem_cons_self)
  have hlevelShown := hlogging _ List.mem_cons_self
  rw [given?_sampleVariables] at henabledShown hsuffixShown hlevelShown
  exact ⟨s, hs, (Except.ok.inj henabledShown).symm, (Except.ok.inj hsuffixShown).symm, hlevelShown⟩

/-- A file above the working directory counts where neither that directory nor the user has one. -/
theorem local_file_above_counts :
    fileLayer filesAbove systemPath = .ok [] ∧ userLayer filesAbove atHome none = .ok [] ∧
      fileLayer filesAbove ((FileTree.pathOf filesAbove.here).join localName) = .ok [] ∧
      ofHost filesAbove atHome = .ok { cache := { keySuffix := "parent" } } ∧
      ({} : Settings).cache.keySuffix = "plugins" := by
  have hlocal : locate? filesAbove ((FileTree.pathOf filesAbove.here).join localName) = none := by
    decide +kernel
  have hlayer : atHome.layer = [] := by simp [layer, layer.add, atHome, keysOf?_home]
  refine ⟨fileLayer_systemPath_above, userLayer_above,
    fileLayer_of_locate?_eq_none hlocal, ?_, rfl⟩
  unfold ofHost
  rw [fileLayer_systemPath_above, userLayer_above, fileLayer_localName_above, hlayer]
  rfl

end PluginHost.Settings
