import PluginHost.FileTree.Change
import PluginHost.Proofs.Cache.Hits
import PluginHost.Proofs.FileTree

/-!
Discoveries that share a cache answer as they would without one, whatever happens to the files
between their questions. Every kept entry was read from some file at some question before; where a
key tells a place, a time a content, and a file has one path, it is still what that file holds.
-/
namespace PluginHost

structure SharedCache where
  parser : DocumentParser
  idKey : String
  suffix : String

namespace SharedCache

structure Question where
  directories : DirectorySet
  scanner : Scanner

/-- A change of the files between questions, such as `FileTree.write`, or a question. -/
inductive RunStep
  | change (alter : FileTree → FileTree)
  | ask (question : Question)

variable (c : SharedCache)

def discovery (question : Question) : DirectoryDiscovery where
  directories := question.directories
  scanner := question.scanner
  parser := c.parser
  cache := .file c.suffix
  idKey := c.idKey

def answers : Workspace → List RunStep → List (Except PluginError DefinitionMap)
  | _, [] => []
  | w, .change alter :: rest => answers { w with files := alter w.files } rest
  | w, .ask question :: rest =>
    (c.discovery question).definitions.result w ::
      answers ((c.discovery question).definitions.after w) rest

/-- The answers to the same questions without a cache, each from the files as they are then. -/
def uncachedAnswers : FileTree → List RunStep → List (Except PluginError DefinitionMap)
  | _, [] => []
  | files, .change alter :: rest => uncachedAnswers (alter files) rest
  | files, .ask question :: rest =>
    (c.discovery question).uncached.definitions.result { files } :: uncachedAnswers files rest

def questions : FileTree → List RunStep → List (FileTree × Question)
  | _, [] => []
  | files, .change alter :: rest => questions (alter files) rest
  | files, .ask question :: rest => (files, question) :: questions files rest

/-- Some file that is scanned for a question stands at the place then. -/
def Scanned (asked : List (FileTree × Question)) (place : Location) : Prop :=
  ∃ q ∈ asked, ∃ f ∈ (c.discovery q.2).scanned q.1, q.1.resolve f.path = some place

/-- Whenever a place that is scanned has the same time at two questions, the same is read there. -/
def TimesTellContents (asked : List (FileTree × Question)) : Prop :=
  ∀ q ∈ asked, ∀ q' ∈ asked, ∀ f ∈ (c.discovery q.2).scanned q.1,
    ∀ f' ∈ (c.discovery q'.2).scanned q'.1, ∀ place modified,
      q.1.resolve f.path = some place → q'.1.resolve f'.path = some place →
      q.1.modified? f.path = some modified → q'.1.modified? f'.path = some modified →
        q.1.read f.path = q'.1.read f'.path

/-- No place is scanned under two paths. -/
def OnePathEach (asked : List (FileTree × Question)) : Prop :=
  ∀ q ∈ asked, ∀ q' ∈ asked, ∀ f ∈ (c.discovery q.2).scanned q.1,
    ∀ f' ∈ (c.discovery q'.2).scanned q'.1, ∀ place,
      q.1.resolve f.path = some place → q'.1.resolve f'.path = some place → f'.path = f.path

/-- Every kept entry is what some file held when it was scanned for a question, kept under the key
that the file's path had then and with the time that the file had. -/
def Sound (asked : List (FileTree × Question)) (store : CacheStore) : Prop :=
  ∀ key stored, store.get? key = some stored →
    ∃ q ∈ asked, ∃ f ∈ (c.discovery q.2).scanned q.1,
      key = DefinitionCache.keyOf c.suffix q.1 f.path ∧
      q.1.modified? f.path = some stored.modified ∧
      (c.discovery q.2).Holds q.1 f stored.entry

variable {c} {asked : List (FileTree × Question)} {question : Question} {w : Workspace}

theorem Sound.shrink {before after : Workspace} (h : c.Sound asked before.store)
    (hshrinks : DefinitionCache.Shrinks before after) : c.Sound asked after.store :=
  fun key stored hget => h key stored (hshrinks.2 key stored hget)

theorem Sound.keep (h : c.Sound asked w.store) {f : ScannedFile} {entry : CacheEntry} {modified : Nat}
    (hasked : (w.files, question) ∈ asked) (hf : f ∈ (c.discovery question).scanned w.files)
    (hholds : (c.discovery question).Holds w.files f entry)
    (htime : w.files.modified? f.path = some modified) :
    c.Sound asked (w.store.insert (DefinitionCache.keyOf c.suffix w.files f.path)
      { modified, entry }) := by
  intro key stored hget
  rw [KeyedMap.get?_insert] at hget
  split at hget
  · next hkey =>
    obtain rfl := Option.some.inj hget
    exact ⟨_, hasked, f, hf, hkey.symm, htime, hholds⟩
  · exact h key stored hget

theorem Sound.origin_of_valid (h : c.Sound asked w.store) {path : Path} {entry : CacheEntry}
    (hvalid : DefinitionCache.valid? c.suffix w path = some entry) :
    ∃ q ∈ asked, ∃ g ∈ (c.discovery q.2).scanned q.1, (c.discovery q.2).Holds q.1 g entry ∧
      ∃ modified place placeThen,
        w.files.modified? path = some modified ∧ q.1.modified? g.path = some modified ∧
        w.files.resolve path = some place ∧ q.1.resolve g.path = some placeThen ∧
        DefinitionCache.keyAt c.suffix placeThen = DefinitionCache.keyAt c.suffix place := by
  obtain ⟨stored, hget, hnow, rfl⟩ := DefinitionCache.valid?_eq_some_iff.1 hvalid
  obtain ⟨q, hq, g, hg, hkey, hthen, hholds⟩ := h _ stored hget
  obtain ⟨place, -, hplace, -, -⟩ := FileTree.modified?_eq_some_iff.1 hnow
  obtain ⟨placeThen, -, hplaceThen, -, -⟩ := FileTree.modified?_eq_some_iff.1 hthen
  rw [DefinitionCache.keyOf_of_resolve hplace, DefinitionCache.keyOf_of_resolve hplaceThen] at hkey
  exact ⟨q, hq, g, hg, hholds, _, place, placeThen, hnow, hthen, hplace, hplaceThen, hkey.symm⟩

theorem Sound.holds_of_valid (h : c.Sound asked w.store) (htimes : c.TimesTellContents asked)
    (hpaths : c.OnePathEach asked) (hapart : DefinitionCache.KeysApart c.suffix (c.Scanned asked))
    (hasked : (w.files, question) ∈ asked) {f : ScannedFile}
    (hf : f ∈ (c.discovery question).scanned w.files) {entry : CacheEntry}
    (hvalid : DefinitionCache.valid? c.suffix w f.path = some entry)
    (hfits : DirectoryDiscovery.fits f.provider entry = true) :
    (c.discovery question).Holds w.files f entry := by
  obtain ⟨q, hq, g, hg, hholds, modified, place, placeThen, hnow, hthen, hplace, hplaceThen, hkey⟩ :=
    h.origin_of_valid hvalid
  obtain rfl : placeThen = place :=
    hapart placeThen place ⟨q, hq, g, hg, hplaceThen⟩ ⟨_, hasked, f, hf, hplace⟩ hkey
  -- at one place one time means one content
  have hcontent : w.files.read f.path = q.1.read g.path :=
    htimes _ hasked q hq f hf g hg placeThen modified hplace hplaceThen hnow hthen
  have hpath : f.path = g.path := hpaths q hq _ hasked g hg f hf placeThen hplaceThen hplace
  exact hholds.transfer rfl rfl hpath hcontent hfits

theorem outcome_definitions_of_sound (hasked : (w.files, question) ∈ asked)
    (hsound : c.Sound asked w.store) :
    ∃ t, (c.discovery question).definitions.outcome w =
        (DirectoryDiscovery.collectEntries ((c.discovery question).entryGiven w.files
          ((c.discovery question).hits c.suffix w)) .empty
          ((c.discovery question).scanned w.files), t) ∧
      t.files = w.files ∧ c.Sound asked t.store := by
  have hshrinks := (c.discovery question).lookedUp_shrinks c.suffix w
  rw [DirectoryDiscovery.outcome_definitions_cached rfl]
  apply DirectoryDiscovery.outcome_visit_cached rfl _ (c.Sound asked) _ .empty hshrinks.1
    (hsound.shrink hshrinks)
  intro f hf store entry modified _ hholds htime hstore
  exact Sound.keep (w := ⟨w.files, store⟩) hstore hasked hf hholds htime

theorem outcome_definitions (htimes : c.TimesTellContents asked) (hpaths : c.OnePathEach asked)
    (hapart : DefinitionCache.KeysApart c.suffix (c.Scanned asked))
    (hasked : (w.files, question) ∈ asked) (hsound : c.Sound asked w.store) :
    ∃ t, (c.discovery question).definitions.outcome w =
        ((c.discovery question).uncached.definitions.result w, t) ∧
      t.files = w.files ∧ c.Sound asked t.store := by
  obtain ⟨t, hanswer, ht⟩ := outcome_definitions_of_sound hasked hsound
  refine ⟨t, ?_, ht⟩
  have huncached : (c.discovery question).uncached.definitions.result w =
      (c.discovery question).gather w.files .empty ((c.discovery question).scanned w.files) :=
    congrArg Prod.fst (DirectoryDiscovery.outcome_definitions_uncached _ w)
  rw [hanswer, huncached]
  apply congrArg (·, t)
  apply DirectoryDiscovery.collectEntries_congr
  intro f hf
  unfold DirectoryDiscovery.entryGiven
  cases hhit : DirectoryDiscovery.fittingHit ((c.discovery question).hits c.suffix w) f with
  | none => rfl
  | some entry =>
    obtain ⟨hvalid, hfits⟩ := DirectoryDiscovery.fitting_eq_some_iff.1
      (DirectoryDiscovery.fitting_of_fittingHit hf hhit)
    have hholds := hsound.holds_of_valid htimes hpaths hapart hasked hf hvalid hfits
    exact (DirectoryDiscovery.readEntry_of_holds hholds).symm

theorem result_uncached_eq (d : DirectoryDiscovery) (w : Workspace) :
    d.uncached.definitions.result { files := w.files } = d.uncached.definitions.result w := by
  unfold Action.result
  rw [DirectoryDiscovery.outcome_definitions_uncached, DirectoryDiscovery.outcome_definitions_uncached]

theorem answers_of_sound (htimes : c.TimesTellContents asked) (hpaths : c.OnePathEach asked)
    (hapart : DefinitionCache.KeysApart c.suffix (c.Scanned asked)) {steps : List RunStep}
    (hasked : ∀ q ∈ questions w.files steps, q ∈ asked) (hsound : c.Sound asked w.store) :
    c.answers w steps = c.uncachedAnswers w.files steps := by
  induction steps generalizing w with
  | nil => rfl
  | cons step rest ih =>
    cases step with
    | change alter => exact ih hasked hsound
    | ask question =>
      obtain ⟨hnow, hlater⟩ := List.forall_mem_cons.1 hasked
      obtain ⟨t, ht, hfiles, hsoundAfter⟩ := outcome_definitions htimes hpaths hapart hnow hsound
      have hresult := congrArg Prod.fst ht
      have hafter : (c.discovery question).definitions.after w = t := congrArg Prod.snd ht
      unfold answers uncachedAnswers
      rw [hafter, ih (hfiles ▸ hlater) hsoundAfter, hfiles, result_uncached_eq]
      exact congrArg (· :: _) hresult

/-- Over a store that is empty in the beginning, discoveries that share a cache give in every run the
answers that they would give without it, if a file's time tells its content, no file is scanned under
two paths, and no two files that are scanned have one key. -/
theorem answers_eq_uncachedAnswers (c : SharedCache) (files : FileTree) (steps : List RunStep)
    (htimes : c.TimesTellContents (questions files steps))
    (hpaths : c.OnePathEach (questions files steps))
    (hapart : DefinitionCache.KeysApart c.suffix (c.Scanned (questions files steps))) :
    c.answers { files } steps = c.uncachedAnswers files steps := by
  apply answers_of_sound htimes hpaths hapart (fun q hq => hq)
  intro key stored hget
  cases hget

def sampleCache : SharedCache where
  parser := .ofFormat .yaml
  idKey := "id"
  suffix := "plugins"

def sampleQuestion (provider : String) : Question where
  directories := { entries := [(provider, [⟨"/"⟩])] }
  scanner := { suffix := ".yml" }

def sampleContent (modified : Int) : ByteArray :=
  if modified = 5 then "id: block\n".toUTF8 else "id: filter\n".toUTF8

def sampleFiles (modified : Int) : FileTree := .single "a.yml" (sampleContent modified) modified

/-- Two providers of one file take turns, and the file is written anew. -/
def sampleRun : List RunStep :=
  [.ask (sampleQuestion "core"), .ask (sampleQuestion "extra"),
    .change fun files => files.write ⟨"/a.yml"⟩ (sampleContent 6) 6, .ask (sampleQuestion "core")]

theorem scanned_sampleQuestion (provider : String) (modified : Int) :
    (sampleCache.discovery (sampleQuestion provider)).scanned (sampleFiles modified) =
      [⟨⟨"/a.yml"⟩, provider⟩] := by
  with_unfolding_all rfl

theorem write_sampleFiles :
    (sampleFiles 5).write ⟨"/a.yml"⟩ (sampleContent 6) 6 = sampleFiles 6 := by
  with_unfolding_all rfl

theorem mem_questions_sampleRun {q : FileTree × Question}
    (h : q ∈ questions (sampleFiles 5) sampleRun) :
    ∃ modified provider, (modified = 5 ∨ modified = 6) ∧
      q = (sampleFiles modified, sampleQuestion provider) := by
  change q ∈ [(sampleFiles 5, sampleQuestion "core"), (sampleFiles 5, sampleQuestion "extra"),
    ((sampleFiles 5).write ⟨"/a.yml"⟩ (sampleContent 6) 6, sampleQuestion "core")] at h
  rw [write_sampleFiles] at h
  simp only [List.mem_cons, List.not_mem_nil, or_false] at h
  rcases h with rfl | rfl | rfl
  · exact ⟨5, "core", .inl rfl, rfl⟩
  · exact ⟨5, "extra", .inl rfl, rfl⟩
  · exact ⟨6, "core", .inr rfl, rfl⟩

def samplePlace : Location := ["a.yml"]

theorem resolve_sampleFiles (modified : Int) :
    (sampleFiles modified).resolve ⟨"/a.yml"⟩ = some samplePlace := by
  with_unfolding_all rfl

theorem modified?_sampleFiles {modified : Int} (h : modified = 5 ∨ modified = 6) :
    (sampleFiles modified).modified? ⟨"/a.yml"⟩ = some modified.toNat := by
  rcases h with rfl | rfl <;> decide +kernel

theorem sampleRun_answers_uncached :
    sampleCache.TimesTellContents (questions (sampleFiles 5) sampleRun) ∧
      sampleCache.OnePathEach (questions (sampleFiles 5) sampleRun) ∧
      DefinitionCache.KeysApart sampleCache.suffix
        (sampleCache.Scanned (questions (sampleFiles 5) sampleRun)) ∧
      sampleCache.answers { files := sampleFiles 5 } sampleRun =
        sampleCache.uncachedAnswers (sampleFiles 5) sampleRun := by
  have htimes : sampleCache.TimesTellContents (questions (sampleFiles 5) sampleRun) := by
    intro q hq q' hq' f hf f' hf' place modified _ _ htime htime'
    obtain ⟨time, provider, hnow, rfl⟩ := mem_questions_sampleRun hq
    obtain ⟨time', provider', hthen, rfl⟩ := mem_questions_sampleRun hq'
    rw [scanned_sampleQuestion] at hf hf'
    cases List.mem_singleton.1 hf
    cases List.mem_singleton.1 hf'
    have htimes : time.toNat = time'.toNat := Option.some.inj <|
      ((modified?_sampleFiles hnow).symm.trans htime).trans
        (htime'.symm.trans (modified?_sampleFiles hthen))
    obtain rfl : time = time' := by omega
    rfl
  have hpaths : sampleCache.OnePathEach (questions (sampleFiles 5) sampleRun) := by
    intro q hq q' hq' f hf f' hf' place _ _
    obtain ⟨time, provider, -, rfl⟩ := mem_questions_sampleRun hq
    obtain ⟨time', provider', -, rfl⟩ := mem_questions_sampleRun hq'
    rw [scanned_sampleQuestion] at hf hf'
    rw [List.mem_singleton.1 hf, List.mem_singleton.1 hf']
  have hapart : DefinitionCache.KeysApart sampleCache.suffix
      (sampleCache.Scanned (questions (sampleFiles 5) sampleRun)) := by
    have hone : ∀ place, sampleCache.Scanned (questions (sampleFiles 5) sampleRun) place →
        place = samplePlace := by
      rintro place ⟨q, hq, f, hf, hplace⟩
      obtain ⟨time, provider, -, rfl⟩ := mem_questions_sampleRun hq
      rw [scanned_sampleQuestion] at hf
      rw [List.mem_singleton.1 hf, resolve_sampleFiles] at hplace
      exact (Option.some.inj hplace).symm
    intro a b ha hb _
    rw [hone a ha, hone b hb]
  exact ⟨htimes, hpaths, hapart,
    answers_eq_uncachedAnswers sampleCache (sampleFiles 5) sampleRun htimes hpaths hapart⟩

/-! Two files that are shown alike take each other's place. -/

def twinQuestion : Question where
  directories := { entries := [("core", [⟨"/d"⟩])] }
  scanner := { suffix := ".yml" }

def twinDefinitions : FileTree :=
  DefinitionCache.twinFiles "id: x\n".toUTF8 "id: y\n".toUTF8 5 5

theorem scanned_twinQuestion :
    (sampleCache.discovery twinQuestion).scanned twinDefinitions =
      [⟨FileTree.pathOf (DefinitionCache.twin 0xFE), "core"⟩,
        ⟨FileTree.pathOf (DefinitionCache.twin 0xFF), "core"⟩] := by
  decide +kernel

theorem resolve_twinDefinitions :
    twinDefinitions.resolve (FileTree.pathOf (DefinitionCache.twin 0xFE)) =
        some (DefinitionCache.twin 0xFE) ∧
      twinDefinitions.resolve (FileTree.pathOf (DefinitionCache.twin 0xFF)) =
        some (DefinitionCache.twin 0xFF) := by
  decide +kernel

theorem exists_twin_of_scanned {f : ScannedFile}
    (hf : f ∈ (sampleCache.discovery twinQuestion).scanned twinDefinitions) :
    ∃ byte, f = ⟨FileTree.pathOf (DefinitionCache.twin byte), "core"⟩ ∧
      twinDefinitions.resolve f.path = some (DefinitionCache.twin byte) := by
  rw [scanned_twinQuestion] at hf
  simp only [List.mem_cons, List.not_mem_nil, or_false] at hf
  rcases hf with rfl | rfl
  · exact ⟨0xFE, rfl, resolve_twinDefinitions.1⟩
  · exact ⟨0xFF, rfl, resolve_twinDefinitions.2⟩

theorem eq_of_scanned_twins {f f' : ScannedFile} {place : Location}
    (hf : f ∈ (sampleCache.discovery twinQuestion).scanned twinDefinitions)
    (hf' : f' ∈ (sampleCache.discovery twinQuestion).scanned twinDefinitions)
    (hplace : twinDefinitions.resolve f.path = some place)
    (hplace' : twinDefinitions.resolve f'.path = some place) : f' = f := by
  obtain ⟨byte, rfl, hleads⟩ := exists_twin_of_scanned hf
  obtain ⟨byte', rfl, hleads'⟩ := exists_twin_of_scanned hf'
  have htwin : DefinitionCache.twin byte = place := Option.some.inj (hleads.symm.trans hplace)
  have htwin' : DefinitionCache.twin byte' = place := Option.some.inj (hleads'.symm.trans hplace')
  rw [htwin, htwin']

/-- Asked twice, the discovery finds the entry of the second file for the first one, too. -/
theorem not_always_uncached :
    ¬∀ (c : SharedCache) (files : FileTree) (steps : List RunStep),
      c.TimesTellContents (questions files steps) → c.OnePathEach (questions files steps) →
        c.answers { files } steps = c.uncachedAnswers files steps := by
  intro h
  have hasked : ∀ q ∈ questions twinDefinitions [.ask twinQuestion, .ask twinQuestion],
      q = (twinDefinitions, twinQuestion) := by
    simp [questions]
  have heq := h sampleCache twinDefinitions [.ask twinQuestion, .ask twinQuestion] ?_ ?_
  · have hids := congrArg (List.map fun answer => answer.toOption.map KeyedMap.keys) heq
    revert hids
    decide +kernel
  · intro q hq q' hq' f hf f' hf' place modified hplace hplace' _ _
    cases hasked q hq
    cases hasked q' hq'
    exact FileTree.read_eq_of_resolve hplace hplace'
  · intro q hq q' hq' f hf f' hf' place hplace hplace'
    cases hasked q hq
    cases hasked q' hq'
    rw [eq_of_scanned_twins hf hf' hplace hplace']

end SharedCache

end PluginHost
