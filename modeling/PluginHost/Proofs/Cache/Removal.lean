import PluginHost.Proofs.Cache.History
import PluginHost.Proofs.FileTree.Removal

/-!
Entries of files that are gone. A path that leads nowhere stands for itself in its key, so what is
done with it then reaches the entry of the file that it led to only if it is the path that stands in
that entry's key. Under any other spelling the entry stays, and is there again with the file.
-/
namespace PluginHost.CacheRun

open DefinitionCache

def KeepsUnder (suffix : String) (place : Location) : FileTree × RunStep → Prop
  | (files, .keep path _) => keyOf suffix files path = keyAt suffix place
  | (_, .change _) | (_, .lookup _) | (_, .forget _) | (_, .clear) => False

/-- An entry was kept for a path, and some steps later the path leads nowhere. -/
def Vanished (suffix : String) (files : FileTree) (path : Path) (stored : StoredEntry)
    (w : Workspace) : Prop :=
  ∃ store between, w = after suffix { files, store } (.keep path stored :: between) ∧
    w.files.resolve path = none

/-- Once the path has vanished, the step leaves no entry for the place to which it led. -/
def NothingLeft (suffix : String) (files : FileTree) (path : Path) (place : Location)
    (step : RunStep) : Prop :=
  ∀ stored w, Vanished suffix files path stored w →
    (step.perform suffix w).store.get? (keyAt suffix place) = none

/-- Once the path has vanished and the step is done, no path to that place is answered until an entry
is kept for it, whatever becomes of the files. -/
def StaysGone (suffix : String) (files : FileTree) (path : Path) (place : Location)
    (step : RunStep) : Prop :=
  ∀ stored w, Vanished suffix files path stored w → ∀ later,
    (∀ m ∈ moments (step.perform suffix w).files later, ¬KeepsUnder suffix place m) →
      ∀ spelling, (after suffix (step.perform suffix w) later).files.resolve spelling = some place →
        answer suffix (after suffix (step.perform suffix w) later) spelling = none

variable {suffix : String} {files : FileTree} {path : Path} {place : Location} {w : Workspace}
  {step : RunStep}

theorem keyOf_of_lost (h : files.resolve path = none) :
    keyOf suffix files path = keyAt suffix place ↔ path.ShownAlike (FileTree.pathOf place) := by
  rw [Path.shownAlike_iff]
  simp [keyOf, keyAt, FileTree.canonical, h, toString]

theorem answer_of_lost (h : w.files.resolve path = none) : answer suffix w path = none := by
  have htime : w.files.modified? path = none := by
    unfold FileTree.modified? FileTree.node?
    rw [h]
    rfl
  unfold answer
  rw [answer_lookup, Option.eq_none_iff_forall_ne_some]
  intro entry hentry
  obtain ⟨stored, -, hstored, -⟩ := valid?_eq_some_iff.1 hentry
  rw [htime] at hstored
  cases hstored

theorem answer_of_nothing_kept (hplace : w.files.resolve path = some place)
    (h : w.store.get? (keyAt suffix place) = none) : answer suffix w path = none := by
  unfold answer
  rw [answer_lookup]
  unfold valid?
  rw [keyOf_of_resolve hplace, h]
  rfl

/-- A lookup and a forget of a path that leads nowhere take away what stands under the path itself. -/
theorem get?_perform_of_lost (hstep : step = .lookup path ∨ step = .forget path)
    (hlost : w.files.resolve path = none) :
    (step.perform suffix w).store.get? (keyAt suffix place) =
      if keyOf suffix w.files path = keyAt suffix place then none
      else w.store.get? (keyAt suffix place) := by
  have hdropped : (step.perform suffix w).store = (dropped suffix w path).store := by
    rcases hstep with rfl | rfl
    · have hanswer : valid? suffix w path = none :=
        (answer_lookup suffix path w).symm.trans (answer_of_lost hlost)
      exact congrArg (fun outcome => outcome.2.store) (outcome_lookup_of_invalid hanswer)
    · rfl
  rw [hdropped]
  unfold dropped
  rw [KeyedMap.get?_erase]

/-! What has no entry has none until one is kept. -/

theorem get?_perform_of_not_keepsUnder (h : ¬KeepsUnder suffix place (w.files, step))
    (hnone : w.store.get? (keyAt suffix place) = none) :
    (step.perform suffix w).store.get? (keyAt suffix place) = none := by
  cases step with
  | change alter => exact hnone
  | lookup path =>
    rw [Option.eq_none_iff_forall_ne_some]
    intro stored hstored
    have hbefore := (get?_after_lookup_eq_some_iff.1 hstored).1
    rw [hnone] at hbefore
    cases hbefore
  | keep path stored =>
    have hkey : keyOf suffix w.files path ≠ keyAt suffix place := h
    change (w.store.insert (keyOf suffix w.files path) stored).get? _ = none
    rw [KeyedMap.get?_insert, if_neg hkey, hnone]
  | forget path =>
    change (w.store.erase (keyOf suffix w.files path)).get? _ = none
    rw [KeyedMap.get?_erase, hnone, ite_self]
  | clear => rfl

theorem get?_after_of_not_keepsUnder {steps : List RunStep}
    (h : ∀ m ∈ moments w.files steps, ¬KeepsUnder suffix place m)
    (hnone : w.store.get? (keyAt suffix place) = none) :
    (after suffix w steps).store.get? (keyAt suffix place) = none := by
  induction steps generalizing w with
  | nil => exact hnone
  | cons step rest ih =>
    obtain ⟨hnow, hlater⟩ := List.forall_mem_cons.1 h
    apply ih
    · rwa [RunStep.files_perform]
    · exact get?_perform_of_not_keepsUnder hnow hnone

/-! The path that stands in the key reaches the entry. -/

theorem nothingLeft_pathOf (hstep : step = .lookup path ∨ step = .forget path)
    (hpath : path.ShownAlike (FileTree.pathOf place)) : NothingLeft suffix files path place step := by
  rintro stored w ⟨-, -, -, hlost⟩
  rw [get?_perform_of_lost hstep hlost, if_pos ((keyOf_of_lost hlost).2 hpath)]

theorem NothingLeft.staysGone (h : NothingLeft suffix files path place step) :
    StaysGone suffix files path place step := by
  intro stored w hvanished later hlater spelling hspelling
  apply answer_of_nothing_kept hspelling
  exact get?_after_of_not_keepsUnder hlater (h stored w hvanished)

/-! Any other spelling leaves the entry where it is. -/

variable {content : Option ByteArray} {modified : Int}

def takenAway (suffix : String) (w : Workspace) (path : Path) (place : Location)
    (stored : StoredEntry) : Workspace :=
  after suffix w [.keep path stored, .change fun files => files.takeAway place]

theorem vanished_takenAway (hplace : files.resolve path = some place)
    (hfile : files.root.at? place = some (.file content modified)) (store : CacheStore)
    (stored : StoredEntry) :
    Vanished suffix files path stored (takenAway suffix { files, store } path place stored) :=
  ⟨store, [.change fun files => files.takeAway place], rfl, FileTree.resolve_takeAway hplace hfile⟩

theorem get?_takenAway (hplace : w.files.resolve path = some place) (stored : StoredEntry) :
    (takenAway suffix w path place stored).store.get? (keyAt suffix place) = some stored := by
  change (w.store.insert (keyOf suffix w.files path) stored).get? _ = some stored
  rw [KeyedMap.get?_insert, if_pos (keyOf_of_resolve hplace)]

def bringBack (place : Location) (content : Option ByteArray) (modified : Nat) : RunStep :=
  .change fun files => files.put place (.file content modified) trivial

/-- A lookup or forget after the file was taken away does not keep its entry from being found when
a file with its time is back. -/
theorem answer_bringBack (hplace : w.files.resolve path = some place)
    (hfile : w.files.root.at? place = some (.file content modified))
    (hstep : step = .lookup path ∨ step = .forget path) (hne : ¬path.ShownAlike (FileTree.pathOf place))
    (stored : StoredEntry) (new : Option ByteArray) :
    let v := after suffix (step.perform suffix (takenAway suffix w path place stored))
      [bringBack place new stored.modified]
    v.files.resolve path = some place ∧ answer suffix v path = some stored.entry := by
  intro v
  have hfiles : v.files =
      (w.files.takeAway place).put place (.file new stored.modified) trivial := by
    have hsame : (step.perform suffix (takenAway suffix w path place stored)).files =
        w.files.takeAway place := by
      rw [RunStep.files_perform]
      rcases hstep with rfl | rfl <;> rfl
    rw [← hsame]
    rfl
  obtain ⟨hback, hpaths⟩ := FileTree.put_file_takeAway hfile new stored.modified
  rw [← hfiles] at hback hpaths
  have hpath : v.files.resolve path = some place := (hpaths path).trans hplace
  have hkept : v.store.get? (keyAt suffix place) = some stored := by
    have hlost : (takenAway suffix w path place stored).files.resolve path = none :=
      FileTree.resolve_takeAway hplace hfile
    have hkey : keyOf suffix (takenAway suffix w path place stored).files path ≠ keyAt suffix place :=
      fun hkey => hne ((keyOf_of_lost hlost).1 hkey)
    exact (get?_perform_of_lost hstep hlost).trans ((if_neg hkey).trans (get?_takenAway hplace stored))
  refine ⟨hpath, (answer_lookup suffix path v).trans (valid?_eq_some_iff.2 ⟨stored, ?_, ?_, rfl⟩)⟩
  · rw [keyOf_of_resolve hpath, hkept]
  · exact FileTree.modified?_eq_some_iff.2 ⟨place, _, hpath, hback, rfl⟩

theorem not_staysGone (hplace : files.resolve path = some place)
    (hfile : files.root.at? place = some (.file content modified))
    (hstep : step = .lookup path ∨ step = .forget path) (hne : ¬path.ShownAlike (FileTree.pathOf place)) :
    ¬StaysGone suffix files path place step := by
  intro h
  let stored : StoredEntry := ⟨0, .empty⟩
  let start : Workspace := { files }
  have hvanished : Vanished suffix files path stored (takenAway suffix start path place stored) :=
    vanished_takenAway hplace hfile .empty stored
  obtain ⟨hback, hfound⟩ : _ ∧ answer suffix (after suffix
      (step.perform suffix (takenAway suffix start path place stored))
      [bringBack place content stored.modified]) path = some stored.entry :=
    answer_bringBack hplace hfile hstep hne stored content
  have hmissed := h _ _ hvanished [bringBack place content stored.modified]
    (by simp [moments, bringBack, KeepsUnder]) path hback
  rw [hmissed] at hfound
  cases hfound

/-- While a path leads nowhere, a lookup of it answers nothing, however it is spelled. That the
lookup, or a forget, also takes away the entry that was kept for the file to which it led holds only
for the absolute path of the file without dots or links, and for one that is shown alike. For these
the entry stays gone; for all others it is found again when a file with its time stands there. -/
theorem gone_iff_pathOf (suffix : String) (files : FileTree) (path : Path) (place : Location)
    (content : Option ByteArray) (modified : Int) (hplace : files.resolve path = some place)
    (hfile : files.root.at? place = some (.file content modified)) (step : RunStep)
    (hstep : step = .lookup path ∨ step = .forget path) :
    (∀ stored w, Vanished suffix files path stored w → answer suffix w path = none) ∧
    (NothingLeft suffix files path place step ↔ path.ShownAlike (FileTree.pathOf place)) ∧
    (StaysGone suffix files path place step ↔ path.ShownAlike (FileTree.pathOf place)) ∧
    (¬path.ShownAlike (FileTree.pathOf place) → ∀ store stored new,
      let v := after suffix
        (step.perform suffix (takenAway suffix { files, store } path place stored))
        [bringBack place new stored.modified]
      v.files.resolve path = some place ∧ answer suffix v path = some stored.entry) := by
  have hgone : StaysGone suffix files path place step → path.ShownAlike (FileTree.pathOf place) :=
    fun h => Classical.byContradiction fun hne => not_staysGone hplace hfile hstep hne h
  refine ⟨?_, ⟨fun h => hgone h.staysGone, nothingLeft_pathOf hstep⟩,
    ⟨hgone, fun hpath => (nothingLeft_pathOf hstep hpath).staysGone⟩, fun hne store stored new =>
      answer_bringBack (w := { files, store }) hplace hfile hstep hne stored new⟩
  rintro stored w ⟨-, -, -, hlost⟩
  exact answer_of_lost hlost

theorem file_sampleFiles (modified : Int) :
    (sampleFiles modified).root.at? samplePlace = some (.file (some .empty) modified) := by
  simp [sampleFiles, samplePlace, FileTree.at?_single]

theorem pathOf_samplePlace : FileTree.pathOf samplePlace = ⟨"/view.yml"⟩ := by
  decide

/-- The lookup under the absolute path leaves nothing; one with a slash more leaves the entry. -/
theorem sampleFiles_gone :
    (sampleFiles 5).resolve ⟨"/view.yml"⟩ = some samplePlace ∧
      (sampleFiles 5).root.at? samplePlace = some (.file (some .empty) 5) ∧
      NothingLeft "plugins" (sampleFiles 5) ⟨"/view.yml"⟩ samplePlace (.lookup ⟨"/view.yml"⟩) ∧
      ¬NothingLeft "plugins" (sampleFiles 5) ⟨"//view.yml"⟩ samplePlace (.lookup ⟨"//view.yml"⟩) := by
  obtain ⟨habsolute, hdoubled⟩ := resolve_sampleFiles 5
  have hfile := file_sampleFiles 5
  refine ⟨habsolute, hfile, ?_, ?_⟩
  · exact (gone_iff_pathOf _ _ _ _ _ _ habsolute hfile _ (.inl rfl)).2.1.2
      (.inl pathOf_samplePlace.symm)
  · intro h
    have hpath := (gone_iff_pathOf _ _ _ _ _ _ hdoubled hfile _ (.inl rfl)).2.1.1 h
    rw [pathOf_samplePlace, Path.shownAlike_iff] at hpath
    revert hpath
    decide +kernel

/-- An entry that was kept for a file under a relative path outlives the file. -/
theorem not_always_gone :
    ¬∀ (files : FileTree) (path : Path) (place : Location) (content : Option ByteArray)
      (modified : Int),
      files.resolve path = some place → files.root.at? place = some (.file content modified) →
        ∀ step, step = .lookup path ∨ step = .forget path →
          NothingLeft "plugins" files path place step ∧ StaysGone "plugins" files path place step := by
  intro h
  have hrelative : (sampleFiles 5).resolve ⟨"view.yml"⟩ = some samplePlace := by
    with_unfolding_all rfl
  have hne : ¬(⟨"view.yml"⟩ : Path).ShownAlike (FileTree.pathOf samplePlace) := by
    rw [Path.shownAlike_iff]
    decide +kernel
  obtain ⟨-, hgone⟩ := h _ _ _ _ _ hrelative (file_sampleFiles 5) (.forget ⟨"view.yml"⟩) (.inr rfl)
  exact not_staysGone hrelative (file_sampleFiles 5) (.inr rfl) hne hgone

end PluginHost.CacheRun
