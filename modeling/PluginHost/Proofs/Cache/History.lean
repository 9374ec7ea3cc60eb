import PluginHost.FileTree.Change
import PluginHost.Proofs.Cache.Lookup
import PluginHost.Proofs.FileTree

/-!
Runs of one cache while the files change under it. What a lookup answers can be told from the run
alone, if no two places of the run have one key: it is the entry that was kept last for the place to
which its path leads, as long as the file has the time that the entry was kept with and no lookup in
between saw another.
-/
namespace PluginHost.CacheRun

open DefinitionCache

/-- A change of the files, such as `FileTree.write`, or what is done with the cache or its store. -/
inductive RunStep
  | change (alter : FileTree → FileTree)
  | lookup (path : Path)
  | keep (path : Path) (stored : StoredEntry)
  | forget (path : Path)
  | clear

namespace RunStep

def path? : RunStep → Option Path
  | lookup path | keep path _ | forget path => some path
  | change _ | clear => none

def changed (files : FileTree) : RunStep → FileTree
  | change alter => alter files
  | _ => files

def perform (suffix : String) (w : Workspace) : RunStep → Workspace
  | change alter => { w with files := alter w.files }
  | lookup path => (((file suffix).lookup path).outcome w).2
  | keep path stored => (((file suffix).keep path stored.modified stored.entry).outcome w).2
  | forget path => (((file suffix).forget path).outcome w).2
  | clear => { w with store := .empty }

theorem files_perform (suffix : String) (w : Workspace) (step : RunStep) :
    (step.perform suffix w).files = step.changed w.files := by
  cases step with
  | lookup path => exact files_after_lookup suffix path w
  | change | keep | forget | clear => rfl

end RunStep

def after (suffix : String) (w : Workspace) (steps : List RunStep) : Workspace :=
  steps.foldl (RunStep.perform suffix) w

def answer (suffix : String) (w : Workspace) (path : Path) : Option CacheEntry :=
  (((file suffix).lookup path).outcome w).1

def moments : FileTree → List RunStep → List (FileTree × RunStep)
  | _, [] => []
  | files, step :: rest => (files, step) :: moments (step.changed files) rest

/-- Whatever path is used leads somewhere at that moment. -/
def PathsLead (past : List (FileTree × RunStep)) : Prop :=
  ∀ m ∈ past, ∀ path, m.2.path? = some path → ∃ place, m.1.resolve path = some place

/-- Some path that is used leads to the place at that moment. -/
def Used (past : List (FileTree × RunStep)) (place : Location) : Prop :=
  ∃ m ∈ past, ∃ path, m.2.path? = some path ∧ m.1.resolve path = some place

/-- The moment decides anew what is kept for a place. -/
def Overrides (place : Location) : FileTree × RunStep → Prop
  | (files, .keep path _) | (files, .forget path) => files.resolve path = some place
  | (_, .clear) => True
  | (_, .lookup _) | (_, .change _) => False

/-- A lookup of the file at a place that sees another time, or none. -/
def SeesOther (place : Location) (modified : Nat) : FileTree × RunStep → Prop
  | (files, .lookup path) =>
    files.resolve path = some place ∧ files.modified? path ≠ some modified
  | _ => False

/-- Of all moments that decided what is kept for a place the last one kept this entry, and no lookup
after that saw the file with another time. -/
def LastKept (past : List (FileTree × RunStep)) (place : Location) (stored : StoredEntry) : Prop :=
  ∃ before files path since, past = before ++ (files, .keep path stored) :: since ∧
    files.resolve path = some place ∧
    ∀ m ∈ since, ¬Overrides place m ∧ ¬SeesOther place stored.modified m

variable {suffix : String} {past : List (FileTree × RunStep)} {place : Location}
  {stored : StoredEntry} {w : Workspace}

theorem lastKept_append_singleton {m : FileTree × RunStep} :
    LastKept (past ++ [m]) place stored ↔
      (∃ path, m.2 = .keep path stored ∧ m.1.resolve path = some place) ∨
        (LastKept past place stored ∧ ¬Overrides place m ∧ ¬SeesOther place stored.modified m) := by
  constructor
  · rintro ⟨before, files, path, since, hpast, hplace, hsince⟩
    rcases List.eq_nil_or_concat since with rfl | ⟨since, last, rfl⟩
    · obtain ⟨-, hm⟩ := List.append_inj' hpast rfl
      cases hm
      exact .inl ⟨path, rfl, hplace⟩
    · have hsplit : past ++ [m] = (before ++ (files, .keep path stored) :: since) ++ [last] := by
        simpa using hpast
      obtain ⟨rfl, hm⟩ := List.append_inj' hsplit rfl
      cases hm
      rw [List.concat_eq_append, List.forall_mem_append] at hsince
      exact .inr ⟨⟨before, files, path, since, rfl, hplace, hsince.1⟩, hsince.2 _ List.mem_cons_self⟩
  · rintro (⟨path, hm, hplace⟩ | ⟨⟨before, files, path, since, rfl, hplace, hsince⟩, hlast⟩)
    · obtain ⟨files, step⟩ := m
      cases hm
      exact ⟨past, files, path, [], rfl, hplace, by simp⟩
    · refine ⟨before, files, path, since ++ [m], by simp, hplace, fun n hn => ?_⟩
      rcases List.mem_append.1 hn with hn | hn
      · exact hsince n hn
      · exact List.mem_singleton.1 hn ▸ hlast

/-! The store holds, place by place, what the past kept last. -/

def Records (suffix : String) (places : Location → Prop) (store : CacheStore)
    (past : List (FileTree × RunStep)) : Prop :=
  ∀ place stored, places place →
    (store.get? (keyAt suffix place) = some stored ↔ LastKept past place stored)

variable {places : Location → Prop}

theorem records_empty (suffix : String) (places : Location → Prop) :
    Records suffix places .empty [] := by
  intro place stored _
  constructor
  · intro h
    cases h
  · rintro ⟨before, files, path, since, hpast, -⟩
    simp at hpast

theorem keyAt_eq_iff_of_apart (hapart : KeysApart suffix places) {target : Location}
    (htarget : places target) (hplace : places place) :
    keyAt suffix target = keyAt suffix place ↔ target = place :=
  ⟨hapart target place htarget hplace, congrArg (keyAt suffix)⟩

theorem Records.keep (h : Records suffix places w.store past) (hapart : KeysApart suffix places)
    {path : Path} {kept : StoredEntry} {target : Location}
    (htarget : w.files.resolve path = some target) (hused : places target) :
    Records suffix places ((RunStep.keep path kept).perform suffix w).store
      (past ++ [(w.files, .keep path kept)]) := by
  intro place stored hplace
  have hkey := keyAt_eq_iff_of_apart hapart hused hplace
  change (w.store.insert (keyOf suffix w.files path) kept).get? _ = _ ↔ _
  rw [keyOf_of_resolve htarget, KeyedMap.get?_insert, lastKept_append_singleton]
  by_cases heq : target = place
  · subst heq
    simp only [if_true, Option.some.injEq]
    constructor
    · rintro rfl
      exact .inl ⟨path, rfl, htarget⟩
    · rintro (⟨_, hstep, -⟩ | ⟨-, hnot, -⟩)
      · cases hstep
        rfl
      · exact absurd htarget hnot
  · simp [heq, hkey, htarget, Overrides, SeesOther, h place stored hplace]

theorem Records.forget (h : Records suffix places w.store past) (hapart : KeysApart suffix places)
    {path : Path} {target : Location} (htarget : w.files.resolve path = some target)
    (hused : places target) :
    Records suffix places ((RunStep.forget path).perform suffix w).store
      (past ++ [(w.files, .forget path)]) := by
  intro place stored hplace
  have hkey := keyAt_eq_iff_of_apart hapart hused hplace
  change (w.store.erase (keyOf suffix w.files path)).get? _ = _ ↔ _
  rw [keyOf_of_resolve htarget, KeyedMap.get?_erase, lastKept_append_singleton]
  by_cases heq : target = place
  · simp [heq, htarget, Overrides]
  · simp [heq, hkey, htarget, Overrides, SeesOther, h place stored hplace]

/-- A lookup that takes an entry away is one that sees another time than the entry's. -/
theorem Records.lookup (h : Records suffix places w.store past) (hapart : KeysApart suffix places)
    {path : Path} {target : Location} (htarget : w.files.resolve path = some target)
    (hused : places target) :
    Records suffix places ((RunStep.lookup path).perform suffix w).store
      (past ++ [(w.files, .lookup path)]) := by
  intro place stored hplace
  have hkey := keyAt_eq_iff_of_apart hapart hused hplace
  change (((file suffix).lookup path).outcome w).2.store.get? _ = _ ↔ _
  rw [get?_after_lookup_eq_some_iff, keyOf_of_resolve htarget, hkey, h place stored hplace,
    lastKept_append_singleton]
  simp [Overrides, SeesOther, htarget]

theorem Records.perform (h : Records suffix places w.store past) (hapart : KeysApart suffix places)
    {step : RunStep}
    (hlead : ∀ path, step.path? = some path → ∃ place, w.files.resolve path = some place ∧ places place) :
    Records suffix places (step.perform suffix w).store (past ++ [(w.files, step)]) := by
  cases step with
  | change alter =>
    intro place stored hplace
    rw [lastKept_append_singleton]
    simpa [RunStep.perform, Overrides, SeesOther] using h place stored hplace
  | lookup path =>
    obtain ⟨target, htarget, hused⟩ := hlead path rfl
    exact h.lookup hapart htarget hused
  | keep path kept =>
    obtain ⟨target, htarget, hused⟩ := hlead path rfl
    exact h.keep hapart htarget hused
  | forget path =>
    obtain ⟨target, htarget, hused⟩ := hlead path rfl
    exact h.forget hapart htarget hused
  | clear =>
    intro place stored hplace
    rw [lastKept_append_singleton]
    simp [RunStep.perform, Overrides]

theorem Records.after {steps : List RunStep} (h : Records suffix places w.store past)
    (hapart : KeysApart suffix places) (hlead : PathsLead (moments w.files steps))
    (hused : ∀ place, Used (moments w.files steps) place → places place) :
    Records suffix places (after suffix w steps).store (past ++ moments w.files steps) := by
  induction steps generalizing w past with
  | nil => simpa [moments, CacheRun.after] using h
  | cons step rest ih =>
    obtain ⟨hnow, hlater⟩ := List.forall_mem_cons.1 hlead
    have hstep : Records suffix places (step.perform suffix w).store (past ++ [(w.files, step)]) := by
      refine h.perform hapart fun path hpath => ?_
      obtain ⟨place, hplace⟩ := hnow path hpath
      exact ⟨place, hplace, hused place ⟨_, List.mem_cons_self, path, hpath, hplace⟩⟩
    have hrest := ih hstep (by rw [RunStep.files_perform]; exact hlater) fun place => by
      rintro ⟨m, hm, hleads⟩
      rw [RunStep.files_perform] at hm
      exact hused place ⟨m, List.mem_cons_of_mem _ hm, hleads⟩
    rw [RunStep.files_perform] at hrest
    simpa [moments, CacheRun.after] using hrest

theorem moments_append (suffix : String) (w : Workspace) (earlier later : List RunStep) :
    moments w.files (earlier ++ later) =
      moments w.files earlier ++ moments (after suffix w earlier).files later := by
  induction earlier generalizing w with
  | nil => rfl
  | cons step rest ih =>
    have hrest := ih (step.perform suffix w)
    rw [RunStep.files_perform] at hrest
    simp only [List.cons_append, moments, hrest]
    rfl

def Keeps (place : Location) (m : FileTree × RunStep) : Prop :=
  ∃ path stored, m.2 = .keep path stored ∧ m.1.resolve path = some place

theorem LastKept.before {more : List (FileTree × RunStep)} (h : LastKept (past ++ more) place stored)
    (hmore : ∀ m ∈ more, ¬Keeps place m) :
    LastKept past place stored ∧
      ∀ m ∈ more, ¬Overrides place m ∧ ¬SeesOther place stored.modified m := by
  induction more generalizing past with
  | nil => exact ⟨by simpa using h, by simp⟩
  | cons m rest ih =>
    obtain ⟨hm, hrest⟩ := List.forall_mem_cons.1 hmore
    rw [List.append_cons] at h
    obtain ⟨hkept, hsince⟩ := ih h hrest
    rcases lastKept_append_singleton.1 hkept with ⟨path, hstep, hplace⟩ | ⟨hpast, hnot⟩
    · exact absurd ⟨path, stored, hstep, hplace⟩ hm
    · exact ⟨hpast, List.forall_mem_cons.2 ⟨hnot, hsince⟩⟩

theorem answer_eq_some_iff {path : Path} (h : Records suffix places w.store past)
    (hplace : w.files.resolve path = some place) (hused : places place) (entry : CacheEntry) :
    answer suffix w path = some entry ↔
      ∃ modified, w.files.modified? path = some modified ∧ LastKept past place ⟨modified, entry⟩ := by
  have hanswer : answer suffix w path = valid? suffix w path := answer_lookup suffix path w
  have hrecords := fun stored => h place stored hused
  rw [hanswer, valid?_eq_some_iff, keyOf_of_resolve hplace]
  constructor
  · rintro ⟨stored, hget, htime, rfl⟩
    exact ⟨stored.modified, htime, (hrecords stored).1 hget⟩
  · rintro ⟨modified, htime, hkept⟩
    exact ⟨⟨modified, entry⟩, (hrecords _).2 hkept, htime, rfl⟩

theorem records_after {files : FileTree} {steps : List RunStep} (hapart : KeysApart suffix places)
    (h : PathsLead (moments files steps))
    (hused : ∀ place, Used (moments files steps) place → places place) :
    Records suffix places (after suffix { files } steps).store (moments files steps) := by
  have hstart : Records suffix places (Workspace.mk files .empty).store [] :=
    records_empty suffix places
  exact hstart.after hapart h hused

theorem answer_eq_none_of_missed {files : FileTree} {earlier later : List RunStep}
    {spelling path : Path} (hapart : KeysApart suffix places)
    (hlead : PathsLead (moments files (earlier ++ .lookup spelling :: later)))
    (hused : ∀ place, Used (moments files (earlier ++ .lookup spelling :: later)) place →
      places place)
    (hspelling : (after suffix { files } earlier).files.resolve spelling = some place)
    (hmissed : answer suffix (after suffix { files } earlier) spelling = none)
    (hlater : ∀ m ∈ moments (after suffix { files } earlier).files later, ¬Keeps place m)
    (hpath : (after suffix { files } (earlier ++ .lookup spelling :: later)).files.resolve path =
      some place) :
    answer suffix (after suffix { files } (earlier ++ .lookup spelling :: later)) path = none := by
  rw [Option.eq_none_iff_forall_ne_some]
  intro entry hentry
  have hsplit := moments_append suffix { files } earlier (.lookup spelling :: later)
  dsimp only at hsplit
  have hplace : places place := by
    refine hused place ⟨_, hsplit ▸ List.mem_append_right _ List.mem_cons_self, spelling, rfl, ?_⟩
    exact hspelling
  obtain ⟨modified, -, hkept⟩ :=
    (answer_eq_some_iff (records_after hapart hlead hused) hpath hplace entry).1 hentry
  rw [hsplit] at hlead hkept
  have hkeeps : ∀ m ∈ moments (after suffix { files } earlier).files (.lookup spelling :: later),
      ¬Keeps place m := by
    refine List.forall_mem_cons.2 ⟨?_, hlater⟩
    rintro ⟨_, _, hstep, -⟩
    cases hstep
  obtain ⟨hbefore, hsince⟩ := hkept.before hkeeps
  -- the lookup would have seen the time of what was kept, and given it
  have hsaw := (List.forall_mem_cons.1 hsince).1.2
  have htime : (after suffix { files } earlier).files.modified? spelling = some modified := by
    simpa [SeesOther, hspelling] using hsaw
  have hrecords := records_after hapart (List.forall_mem_append.1 hlead).1 fun place =>
    fun ⟨m, hm, hleads⟩ => hused place ⟨m, hsplit ▸ List.mem_append_left _ hm, hleads⟩
  have hfound := (answer_eq_some_iff hrecords hspelling hplace entry).2 ⟨modified, htime, hbefore⟩
  rw [hmissed] at hfound
  cases hfound

/-- In a run of one cache over an empty store, whose paths lead somewhere whenever they are used, and
to no two places with one key, a lookup answers exactly with the entry kept last for the place of its
path, if the file has the time of that entry and was not looked up at another time since. So every
path to the place is answered alike, and what one lookup misses all later ones miss, whatever time
the file has then, until an entry is kept for the place again. -/
theorem answer_iff_lastKept (suffix : String) (files : FileTree) (steps : List RunStep)
    (hlead : PathsLead (moments files steps)) (path : Path) (place : Location)
    (hplace : (after suffix { files } steps).files.resolve path = some place)
    (hapart : KeysApart suffix (Used (moments files (steps ++ [.lookup path])))) :
    let w := after suffix { files } steps
    (∀ entry, answer suffix w path = some entry ↔
      ∃ modified, w.files.modified? path = some modified ∧
        LastKept (moments files steps) place ⟨modified, entry⟩) ∧
    (∀ spelling, w.files.resolve spelling = some place →
      answer suffix w spelling = answer suffix w path) ∧
    ∀ earlier spelling later, steps = earlier ++ .lookup spelling :: later →
      let v := after suffix { files } earlier
      v.files.resolve spelling = some place → answer suffix v spelling = none →
      (∀ m ∈ moments v.files later, ¬Keeps place m) → answer suffix w path = none := by
  intro w
  have hmoments := moments_append suffix { files } steps [.lookup path]
  dsimp only at hmoments
  rw [hmoments] at hapart
  have hused : ∀ place, Used (moments files steps) place →
      Used (moments files steps ++ moments w.files [.lookup path]) place :=
    fun _ ⟨m, hm, hleads⟩ => ⟨m, List.mem_append_left _ hm, hleads⟩
  have hasked : Used (moments files steps ++ moments w.files [.lookup path]) place :=
    ⟨_, List.mem_append_right _ List.mem_cons_self, path, rfl, hplace⟩
  have hrecords := records_after hapart hlead hused
  refine ⟨answer_eq_some_iff hrecords hplace hasked, fun spelling hspelling => ?_, ?_⟩
  · apply Option.ext
    intro entry
    rw [answer_eq_some_iff hrecords hspelling hasked, answer_eq_some_iff hrecords hplace hasked,
      FileTree.modified?_eq_of_resolve (hspelling.trans hplace.symm)]
  · rintro earlier spelling later rfl v hspelling hmissed hlater
    exact answer_eq_none_of_missed hapart hlead hused hspelling hmissed hlater hplace

def samplePlace : Location := ["view.yml"]

def sampleFiles (modified : Int) : FileTree := .single "view.yml" .empty modified

/-- The file's time moves on before a lookup, and back after it. -/
def sampleRun : List RunStep :=
  [.keep ⟨"/view.yml"⟩ ⟨5, .empty⟩, .change fun files => files.setModified ⟨"/view.yml"⟩ 6,
    .lookup ⟨"//view.yml"⟩, .change fun files => files.setModified ⟨"/view.yml"⟩ 5]

theorem resolve_sampleFiles (modified : Int) :
    (sampleFiles modified).resolve ⟨"/view.yml"⟩ = some samplePlace ∧
      (sampleFiles modified).resolve ⟨"//view.yml"⟩ = some samplePlace := by
  constructor <;> with_unfolding_all rfl

theorem setModified_sampleFiles (old new : Int) :
    (sampleFiles old).setModified ⟨"/view.yml"⟩ new = sampleFiles new := by
  with_unfolding_all rfl

theorem moments_sampleRun : moments (sampleFiles 5) sampleRun =
    [(sampleFiles 5, sampleRun[0]), (sampleFiles 5, sampleRun[1]), (sampleFiles 6, sampleRun[2]),
      (sampleFiles 6, sampleRun[3])] := by
  simp [sampleRun, moments, RunStep.changed, setModified_sampleFiles]

theorem pathsLead_sampleRun : PathsLead (moments (sampleFiles 5) sampleRun) := by
  rw [moments_sampleRun]
  simp [PathsLead, sampleRun, RunStep.path?, resolve_sampleFiles]

theorem used_sampleRun {place : Location}
    (h : Used (moments (sampleFiles 5) (sampleRun ++ [.lookup ⟨"/view.yml"⟩])) place) :
    place = samplePlace := by
  rw [moments_append "plugins" { files := sampleFiles 5 }] at h
  have hfiles : (after "plugins" { files := sampleFiles 5 } sampleRun).files = sampleFiles 5 := by
    with_unfolding_all rfl
  rw [hfiles] at h
  obtain ⟨m, hm, path, hpath, hplace⟩ := h
  dsimp only at hm
  rw [moments_sampleRun] at hm
  simp only [sampleRun, moments, List.getElem_cons_zero, List.getElem_cons_succ, List.mem_append,
    List.mem_cons, List.not_mem_nil, or_false] at hm
  rcases hm with (rfl | rfl | rfl | rfl) | rfl <;> cases hpath <;>
    simpa [resolve_sampleFiles, eq_comm] using hplace

/-- The entry that a lookup missed is not found again when the file has its old time. -/
theorem sampleRun_answers_nothing :
    PathsLead (moments (sampleFiles 5) sampleRun) ∧
      (after "plugins" { files := sampleFiles 5 } sampleRun).files.resolve ⟨"/view.yml"⟩ =
        some samplePlace ∧
      KeysApart "plugins" (Used (moments (sampleFiles 5) (sampleRun ++ [.lookup ⟨"/view.yml"⟩]))) ∧
      answer "plugins" (after "plugins" { files := sampleFiles 5 } sampleRun) ⟨"/view.yml"⟩ = none := by
  have hplace : (after "plugins" { files := sampleFiles 5 } sampleRun).files.resolve ⟨"/view.yml"⟩ =
      some samplePlace := by
    with_unfolding_all rfl
  have hapart : KeysApart "plugins"
      (Used (moments (sampleFiles 5) (sampleRun ++ [.lookup ⟨"/view.yml"⟩]))) := by
    intro a b ha hb _
    rw [used_sampleRun ha, used_sampleRun hb]
  refine ⟨pathsLead_sampleRun, hplace, hapart, ?_⟩
  apply (answer_iff_lastKept "plugins" (sampleFiles 5) sampleRun pathsLead_sampleRun ⟨"/view.yml"⟩
    samplePlace hplace hapart).2.2 (sampleRun.take 2) ⟨"//view.yml"⟩ (sampleRun.drop 3) rfl
  · with_unfolding_all rfl
  · with_unfolding_all rfl
  · rintro m hm ⟨path, stored, hstep, -⟩
    cases List.mem_singleton.1 hm
    cases hstep

/-- An entry that was kept for one file is found for another one that is shown alike. -/
theorem not_always_lastKept :
    ¬∀ (suffix : String) (files : FileTree) (steps : List RunStep),
      PathsLead (moments files steps) → ∀ path place,
        (after suffix { files } steps).files.resolve path = some place →
          ∀ entry, answer suffix (after suffix { files } steps) path = some entry →
            ∃ modified, LastKept (moments files steps) place ⟨modified, entry⟩ := by
  intro h
  let files := twinFiles .empty .empty 5 5
  have hfirst : files.resolve (FileTree.pathOf (twin 0xFE)) = some (twin 0xFE) := by decide +kernel
  have hsecond : files.resolve (FileTree.pathOf (twin 0xFF)) = some (twin 0xFF) := by decide +kernel
  have hanswer : (answer "plugins"
      (after "plugins" { files } [.keep (FileTree.pathOf (twin 0xFE)) ⟨5, .empty⟩])
      (FileTree.pathOf (twin 0xFF))).isSome = true := by
    decide +kernel
  obtain ⟨entry, hfound⟩ := Option.isSome_iff_exists.1 hanswer
  have hlead : PathsLead (moments files [.keep (FileTree.pathOf (twin 0xFE)) ⟨5, .empty⟩]) := by
    rintro m hm path hpath
    cases List.mem_singleton.1 hm
    cases hpath
    exact ⟨_, hfirst⟩
  obtain ⟨modified, hkept⟩ := h "plugins" files _ hlead _ _ hsecond entry hfound
  rcases lastKept_append_singleton.1 (show LastKept ([] ++ [_]) _ _ from hkept) with
    ⟨path, hstep, hplace⟩ | ⟨⟨before, _, _, since, hpast, -⟩, -⟩
  · cases hstep
    rw [hfirst] at hplace
    revert hplace
    decide
  · simp at hpast

end PluginHost.CacheRun
