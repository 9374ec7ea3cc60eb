import Mathlib.Logic.Function.Basic
import Mathlib.Logic.Relation
import PluginHost.Proofs.Cache.Lookup
import PluginHost.Proofs.Discovery.Aggregation
import PluginHost.Proofs.FileTree

/-!
Loads of one file that run at the same time while the file is edited. A load takes the file's time,
then reads the file, then keeps what it read under the time that it took; between these steps the
others go on. If every edit gives the file a time that it never had before, a kept entry with the
file's time is what the file holds.
-/
namespace PluginHost

def DirectoryDiscovery.interpret (d : DirectoryDiscovery) (f : ScannedFile) (bytes : ByteArray) :
    Except PluginError CacheEntry :=
  match String.fromUTF8? bytes with
  | none => throw (.invalidDefinition (some f.path) .notUtf8)
  | some text => do d.entryOf f.path f.provider (← d.parser.parse f.path text)

theorem DirectoryDiscovery.load_eq (d : DirectoryDiscovery) (files : FileTree) (f : ScannedFile) :
    d.load files f.path f.provider =
      ((content files f.path).bind (d.interpret f)).map (·, files.modified? f.path) := by
  unfold load interpret
  cases content files f.path with
  | error e => rfl
  | ok bytes =>
    dsimp only [bind, Except.bind]
    cases String.fromUTF8? bytes with
    | none => rfl
    | some text =>
      dsimp only
      cases d.parser.parse f.path text with
      | error e => rfl
      | ok document => cases d.entryOf f.path f.provider document <;> rfl

/-- Loads of the file at a place by discoveries with a common cache. -/
structure LoadRace (ι : Type) where
  suffix : String
  place : Location
  discovery : ι → DirectoryDiscovery
  cached : ∀ i, (discovery i).cache = .file suffix
  file : ι → ScannedFile

namespace LoadRace

open DefinitionCache (keyAt keyOf)
open Relation (ReflTransGen)

inductive Progress
  | waiting
  | timed (time : Option Nat)
  | read (time : Option Nat) (bytes : Except PluginError ByteArray)
  | ended (kept : Option StoredEntry)

/-- `times` are those that the file has had. -/
structure State (ι : Type) extends Workspace where
  times : List Int
  progress : ι → Progress

variable {ι : Type} (race : LoadRace ι)

def kept? (i : ι) (time : Option Nat) (bytes : Except PluginError ByteArray) : Option StoredEntry :=
  match time, bytes.bind ((race.discovery i).interpret (race.file i)) with
  | some modified, .ok entry => some { modified, entry }
  | _, _ => none

def keep (i : ι) (w : Workspace) : Option StoredEntry → Workspace
  | some stored =>
    (((race.discovery i).cache.keep (race.file i).path stored.modified stored.entry).outcome w).2
  | none => w

theorem keep_eq (i : ι) (w : Workspace) (stored : StoredEntry) :
    race.keep i w (some stored) = { w with
      store := w.store.insert (keyOf race.suffix w.files (race.file i).path) stored } := by
  unfold keep
  dsimp only
  rw [race.cached i]
  rfl

@[simp] theorem files_keep (i : ι) (w : Workspace) (kept : Option StoredEntry) :
    (race.keep i w kept).files = w.files := by
  cases kept with
  | none => rfl
  | some stored => rw [keep_eq]

/-- The loads are still to begin, and nothing is kept for the file yet. -/
structure Start (s : State ι) : Prop where
  leads : ∀ i, s.files.resolve (race.file i).path = some race.place
  file : ∃ content, ∃ modified ∈ s.times, s.files.root.at? race.place = some (.file content modified)
  waiting : ∀ i, s.progress i = .waiting
  empty : s.store.get? (keyAt race.suffix race.place) = none

/-- The file has had this time, and if it still has it then `P` holds of its content. -/
def Pinned (s : State ι) (modified : Nat) (P : Option ByteArray → Prop) : Prop :=
  (modified : Int) ∈ s.times ∧
    ∀ content, s.files.root.at? race.place = some (.file content modified) → P content

/-- Every time that was taken is one that the file has had, and what was read under it is the file's
content if the file still has that time. -/
structure Sound (s : State ι) : Prop where
  leads : ∀ i, s.files.resolve (race.file i).path = some race.place
  file : ∃ content, ∃ modified ∈ s.times, s.files.root.at? race.place = some (.file content modified)
  timed : ∀ i modified, s.progress i = .timed (some modified) → (modified : Int) ∈ s.times
  read : ∀ i modified bytes, s.progress i = .read (some modified) (.ok bytes) →
    race.Pinned s modified (· = some bytes)
  kept : ∀ stored, s.store.get? (keyAt race.suffix race.place) = some stored →
    ∃ i, s.progress i = .ended (some stored) ∧ race.Pinned s stored.modified fun content =>
      ∃ bytes, content = some bytes ∧
        (race.discovery i).interpret (race.file i) bytes = .ok stored.entry

variable {race} {start s t : State ι} {i : ι}

theorem Start.sound (h : race.Start s) : race.Sound s where
  leads := h.leads
  file := h.file
  timed i modified hi := by
    rw [h.waiting i] at hi
    cases hi
  read i modified bytes hi := by
    rw [h.waiting i] at hi
    cases hi
  kept stored hget := by
    rw [h.empty] at hget
    cases hget

theorem keep_kept?_eq_entryFor (i : ι) (w : Workspace) {hits : List (Path × CacheEntry)}
    (hmiss : DirectoryDiscovery.fittingHit hits (race.file i) = none) :
    race.keep i w (race.kept? i (w.files.modified? (race.file i).path)
        (DirectoryDiscovery.content w.files (race.file i).path)) =
      (((race.discovery i).entryFor hits (race.file i)).outcome w).2 := by
  rw [DirectoryDiscovery.outcome_entryFor_miss hmiss, DirectoryDiscovery.load_eq]
  unfold kept?
  cases (DirectoryDiscovery.content w.files (race.file i).path).bind
      ((race.discovery i).interpret (race.file i)) with
  | error e => cases w.files.modified? (race.file i).path <;> rfl
  | ok entry => cases w.files.modified? (race.file i).path <;> rfl

theorem kept?_eq_some_iff {time : Option Nat} {bytes : Except PluginError ByteArray}
    {stored : StoredEntry} :
    race.kept? i time bytes = some stored ↔ time = some stored.modified ∧
      ∃ content, bytes = .ok content ∧
        (race.discovery i).interpret (race.file i) content = .ok stored.entry := by
  obtain ⟨modified, entry⟩ := stored
  unfold kept?
  cases time with
  | none => simp
  | some taken =>
    cases bytes with
    | error e => simp [Except.bind]
    | ok content => cases h : (race.discovery i).interpret (race.file i) content <;> simp [Except.bind, h]

theorem Pinned.mono {modified : Nat} {P Q : Option ByteArray → Prop} (h : race.Pinned s modified P)
    (hPQ : ∀ content, P content → Q content) : race.Pinned s modified Q :=
  ⟨h.1, fun content hfile => hPQ content (h.2 content hfile)⟩

/-- What has a time at the place is the file, and the time is one that it has had. -/
theorem Sound.file_of_modified? (h : race.Sound s) {path : Path} {modified : Nat}
    (hleads : s.files.resolve path = some race.place) (htime : s.files.modified? path = some modified) :
    (modified : Int) ∈ s.times ∧
      ∃ content, s.files.root.at? race.place = some (.file content modified) := by
  obtain ⟨content, now, hnow, hfile⟩ := h.file
  obtain ⟨place, node, hplace, hat, hmodified⟩ := FileTree.modified?_eq_some_iff.1 htime
  cases hleads.symm.trans hplace
  cases hfile.symm.trans hat
  obtain rfl : now = modified := Option.some.inj hmodified
  exact ⟨hnow, content, hfile⟩

theorem Sound.holds_of_pinned (h : race.Sound s) {modified : Nat} {entry : CacheEntry}
    (hpinned : race.Pinned s modified fun content => ∃ bytes, content = some bytes ∧
      (race.discovery i).interpret (race.file i) bytes = .ok entry)
    (htime : s.files.modified? (race.file i).path = some modified) :
    (race.discovery i).Holds s.files (race.file i) entry := by
  obtain ⟨-, content, hfile⟩ := h.file_of_modified? (h.leads i) htime
  obtain ⟨bytes, rfl, hentry⟩ := hpinned.2 content hfile
  have hcontent := DirectoryDiscovery.content_eq_ok (FileTree.read_of_at? (h.leads i) hfile)
  rw [DirectoryDiscovery.holds_iff_readEntry, DirectoryDiscovery.readEntry,
    DirectoryDiscovery.load_eq, hcontent, Except.bind, hentry]
  rfl

variable [DecidableEq ι]

def State.move (s : State ι) (i : ι) (progress : Progress) : State ι :=
  { s with progress := Function.update s.progress i progress }

def conclude (race : LoadRace ι) (s : State ι) (i : ι) (kept : Option StoredEntry) : State ι :=
  { s.move i (.ended kept) with toWorkspace := race.keep i s.toWorkspace kept }

def edit (race : LoadRace ι) (s : State ι) (content : Option ByteArray) (modified : Int) : State ι :=
  { s with
    files := s.files.put race.place (.file content modified) trivial
    times := modified :: s.times }

/-- A load goes on, the file is edited, or something else happens to the store that puts nothing
under the key of the file. -/
inductive Step (race : LoadRace ι) : State ι → State ι → Prop
  | time {s : State ι} (i : ι) (h : s.progress i = .waiting) :
      Step race s (s.move i (.timed (s.files.modified? (race.file i).path)))
  | read {s : State ι} (i : ι) {time : Option Nat} (h : s.progress i = .timed time) :
      Step race s (s.move i (.read time (DirectoryDiscovery.content s.files (race.file i).path)))
  | keep {s : State ι} (i : ι) {time : Option Nat} {bytes : Except PluginError ByteArray}
      (h : s.progress i = .read time bytes) :
      Step race s (race.conclude s i (race.kept? i time bytes))
  | edit {s : State ι} (content : Option ByteArray) (modified : Int) (h : modified ∉ s.times) :
      Step race s (race.edit s content modified)
  | lose {s : State ι} {store : CacheStore}
      (h : ∀ stored, store.get? (keyAt race.suffix race.place) = some stored →
        s.store.get? (keyAt race.suffix race.place) = some stored) :
      Step race s { s with store }

theorem Pinned.step {modified : Nat} {P : Option ByteArray → Prop} (h : race.Pinned s modified P)
    (hs : race.Sound s) (hstep : race.Step s t) : race.Pinned t modified P := by
  cases hstep with
  | time | read | lose => exact h
  | keep => simpa [Pinned, conclude, State.move] using h
  | edit content time hnew =>
    obtain ⟨old, before, -, hold⟩ := hs.file
    obtain ⟨hplace, -⟩ := FileTree.put_file hold content time
    refine ⟨List.mem_cons_of_mem _ h.1, fun other hother => ?_⟩
    -- the file has a time now that it never had, so it does not have this one
    cases hplace.symm.trans hother
    exact absurd h.1 hnew

theorem progress_move (s : State ι) (i j : ι) (progress : Progress) :
    (s.move i progress).progress j = if j = i then progress else s.progress j :=
  Function.update_apply s.progress i progress j

theorem progress_conclude (s : State ι) (i j : ι) (kept : Option StoredEntry) :
    (race.conclude s i kept).progress j = if j = i then .ended kept else s.progress j :=
  progress_move s i j (.ended kept)

theorem Sound.move (h : race.Sound s) {progress : Progress} (hi : ∀ kept, s.progress i ≠ .ended kept)
    (htimed : ∀ modified : Nat, progress = .timed (some modified) → (modified : Int) ∈ s.times)
    (hread : ∀ modified bytes, progress = .read (some modified) (.ok bytes) →
      race.Pinned s modified (· = some bytes)) : race.Sound (s.move i progress) where
  leads := h.leads
  file := h.file
  timed j modified hj := by
    rw [progress_move] at hj
    split at hj
    · exact htimed modified hj
    · exact h.timed j modified hj
  read j modified bytes hj := by
    rw [progress_move] at hj
    split at hj
    · exact hread modified bytes hj
    · exact h.read j modified bytes hj
  kept stored hget := by
    obtain ⟨j, hj, hpinned⟩ := h.kept stored hget
    refine ⟨j, ?_, hpinned⟩
    rw [progress_move, if_neg, hj]
    rintro rfl
    exact hi _ hj

theorem Sound.keep (h : race.Sound s) {time : Option Nat} {bytes : Except PluginError ByteArray}
    (hi : s.progress i = .read time bytes) :
    race.Sound (race.conclude s i (race.kept? i time bytes)) where
  leads j := by simpa [conclude, State.move] using h.leads j
  file := by simpa [conclude, State.move] using h.file
  timed j modified hj := by
    rw [progress_conclude] at hj
    split at hj
    · cases hj
    · exact h.timed j modified hj
  read j modified content hj := by
    rw [progress_conclude] at hj
    split at hj
    · cases hj
    · simpa [Pinned, conclude, State.move] using h.read j modified content hj
  kept stored hget := by
    simp only [Pinned, conclude, State.move, files_keep]
    cases hkept : race.kept? i time bytes with
    | none =>
      rw [hkept] at hget
      obtain ⟨j, hj, hpinned⟩ := h.kept stored hget
      have hne : j ≠ i := by
        rintro rfl
        cases hi.symm.trans hj
      exact ⟨j, (Function.update_of_ne hne _ _).trans hj, hpinned⟩
    | some own =>
      have hkey : keyOf race.suffix s.files (race.file i).path = keyAt race.suffix race.place :=
        DefinitionCache.keyOf_of_resolve (h.leads i)
      have hown : stored = own := by
        simpa [hkept, conclude, keep_eq, hkey] using hget.symm
      subst hown
      obtain ⟨rfl, content, rfl, hentry⟩ := kept?_eq_some_iff.1 hkept
      refine ⟨i, Function.update_self .., (h.read i _ content hi).mono ?_⟩
      rintro other rfl
      exact ⟨content, rfl, hentry⟩

theorem Sound.edit (h : race.Sound s) (content : Option ByteArray) {modified : Int}
    (hnew : modified ∉ s.times) : race.Sound (race.edit s content modified) := by
  obtain ⟨old, before, -, hold⟩ := h.file
  obtain ⟨hplace, hresolve⟩ := FileTree.put_file hold content modified
  have hpinned : ∀ time P, race.Pinned s time P → race.Pinned (race.edit s content modified) time P :=
    fun time P hP => hP.step h (.edit content modified hnew)
  exact {
    leads := fun i => (hresolve _).trans (h.leads i)
    file := ⟨content, modified, List.mem_cons_self, hplace⟩
    timed := fun i time hi => List.mem_cons_of_mem _ (h.timed i time hi)
    read := fun i time bytes hi => hpinned _ _ (h.read i time bytes hi)
    kept := fun stored hget => by
      obtain ⟨i, hi, hP⟩ := h.kept stored hget
      exact ⟨i, hi, hpinned _ _ hP⟩ }

theorem Sound.step (h : race.Sound s) (hstep : race.Step s t) : race.Sound t := by
  cases hstep with
  | time i hi =>
    apply h.move (fun kept hkept => by cases hi.symm.trans hkept)
    · intro modified htime
      exact (h.file_of_modified? (h.leads i) (Progress.timed.inj htime)).1
    · intro modified bytes hread
      cases hread
  | @read i time hi =>
    apply h.move (fun kept hkept => by cases hi.symm.trans hkept)
    · intro modified htime
      cases htime
    · -- the file may have another time by now than the one that was taken, but that one it has had
      intro modified bytes hread
      obtain ⟨rfl, hcontent⟩ := Progress.read.inj hread
      refine ⟨h.timed i modified hi, fun content hfile => ?_⟩
      have hread := FileTree.read_of_at? (h.leads i) hfile
      cases content with
      | none =>
        cases (DirectoryDiscovery.content_eq_error hread).symm.trans hcontent
      | some now =>
        cases (DirectoryDiscovery.content_eq_ok hread).symm.trans hcontent
        rfl
  | keep i hi => exact h.keep hi
  | edit content modified hnew => exact h.edit content hnew
  | lose hstore =>
    exact { h with kept := fun stored hget => h.kept stored (hstore stored hget) }

/-! Every interleaving of the loads' steps with edits. -/

theorem sound_of_reachable (hstart : race.Start start) (hs : ReflTransGen race.Step start s) :
    race.Sound s := by
  induction hs with
  | refl => exact hstart.sound
  | tail _ hstep ih => exact ih.step hstep

theorem Pinned.later {modified : Nat} {P : Option ByteArray → Prop} (h : race.Pinned s modified P)
    (hs : race.Sound s) (ht : ReflTransGen race.Step s t) :
    race.Sound t ∧ race.Pinned t modified P := by
  induction ht with
  | refl => exact ⟨hs, h⟩
  | tail _ hstep ih => exact ⟨ih.1.step hstep, ih.2.step ih.1 hstep⟩

theorem step_lookup (path : Path) :
    race.Step s { s with
      toWorkspace := (((DefinitionCache.file race.suffix).lookup path).outcome s.toWorkspace).2 } := by
  have hstep : race.Step s { s with
      store := (((DefinitionCache.file race.suffix).lookup path).outcome s.toWorkspace).2.store } :=
    .lose fun stored hget => (DefinitionCache.get?_after_lookup_eq_some_iff.1 hget).1
  have hafter : (((DefinitionCache.file race.suffix).lookup path).outcome s.toWorkspace).2 =
      ⟨s.files, (((DefinitionCache.file race.suffix).lookup path).outcome s.toWorkspace).2.store⟩ := by
    rw [← DefinitionCache.files_after_lookup race.suffix path s.toWorkspace]
  rw [hafter]
  exact hstep

/-- The steps of a load in a row do what getting the entry of a file does that has no hit. -/
theorem exists_reachable_entryFor (hi : s.progress i = .waiting) {hits : List (Path × CacheEntry)}
    (hmiss : DirectoryDiscovery.fittingHit hits (race.file i) = none) :
    ∃ t, ReflTransGen race.Step s t ∧ t.toWorkspace =
      (((race.discovery i).entryFor hits (race.file i)).outcome s.toWorkspace).2 := by
  let timed := s.move i (.timed (s.files.modified? (race.file i).path))
  let read := timed.move i (.read (s.files.modified? (race.file i).path)
    (DirectoryDiscovery.content s.files (race.file i).path))
  have htime : race.Step s timed := .time i hi
  have hread : race.Step timed read := .read i (Function.update_self ..)
  have hkeep : race.Step read _ := .keep i (Function.update_self ..)
  exact ⟨_, ((ReflTransGen.refl.tail htime).tail hread).tail hkeep,
    keep_kept?_eq_entryFor i s.toWorkspace hmiss⟩

/-- However loads and edits take turns: an entry that is kept for the file was kept by some load, and
it is what the file holds for that load at every later moment at which the file has the entry's time.
So what a lookup answers is what the file holds. -/
theorem kept_holds_while_timed (race : LoadRace ι) (hstart : race.Start start)
    (hs : ReflTransGen race.Step start s) :
    (∀ stored, s.store.get? (keyAt race.suffix race.place) = some stored →
      ∃ i, s.progress i = .ended (some stored) ∧ ∀ t, ReflTransGen race.Step s t →
        t.files.modified? (race.file i).path = some stored.modified →
          (race.discovery i).Holds t.files (race.file i) stored.entry) ∧
    ∀ path entry, s.files.resolve path = some race.place →
      (((DefinitionCache.file race.suffix).lookup path).outcome s.toWorkspace).1 = some entry →
        ∃ i modified, s.progress i = .ended (some { modified, entry }) ∧
          (race.discovery i).Holds s.files (race.file i) entry := by
  have hsound := sound_of_reachable hstart hs
  have hkept : ∀ stored, s.store.get? (keyAt race.suffix race.place) = some stored →
      ∃ i, s.progress i = .ended (some stored) ∧ ∀ t, ReflTransGen race.Step s t →
        t.files.modified? (race.file i).path = some stored.modified →
          (race.discovery i).Holds t.files (race.file i) stored.entry := by
    intro stored hget
    obtain ⟨i, hi, hpinned⟩ := hsound.kept stored hget
    refine ⟨i, hi, fun t ht htime => ?_⟩
    obtain ⟨hsoundThen, hpinnedThen⟩ := hpinned.later hsound ht
    exact hsoundThen.holds_of_pinned hpinnedThen htime
  refine ⟨hkept, fun path entry hpath hanswer => ?_⟩
  rw [DefinitionCache.answer_lookup] at hanswer
  obtain ⟨stored, hget, htime, rfl⟩ := DefinitionCache.valid?_eq_some_iff.1 hanswer
  rw [DefinitionCache.keyOf_of_resolve hpath] at hget
  obtain ⟨i, hi, hlater⟩ := hkept stored hget
  have htimes := FileTree.modified?_eq_of_resolve ((hsound.leads i).trans hpath.symm)
  exact ⟨i, stored.modified, hi, hlater s .refl (htimes.trans htime)⟩

def sampleDiscovery : DirectoryDiscovery where
  directories := {}
  scanner := { suffix := ".yml" }
  parser := .ofFormat .yaml
  cache := .file "plugins"

def sampleRace : LoadRace Bool where
  suffix := "plugins"
  place := ["edited.yml"]
  discovery _ := sampleDiscovery
  cached _ := rfl
  file second := ⟨⟨"/edited.yml"⟩, if second then "extra" else "core"⟩

def sampleStart : State Bool where
  files := .single "edited.yml" "id: block\n".toUTF8 5
  times := [5]
  progress _ := .waiting

theorem start_sampleStart : sampleRace.Start sampleStart where
  leads i := by cases i <;> decide +kernel
  file := ⟨some "id: block\n".toUTF8, 5, List.mem_cons_self, by with_unfolding_all rfl⟩
  waiting _ := rfl
  empty := rfl

/-- The first load takes the file's time before it is emptied and reads it afterwards; the second one
begins then. -/
theorem exists_reachable_sampleStart :
    ∃ s, ReflTransGen sampleRace.Step sampleStart s ∧
      s.store.get? (keyAt sampleRace.suffix sampleRace.place) = some ⟨6, .empty⟩ ∧
      s.files.modified? ⟨"/edited.yml"⟩ = some 6 := by
  refine ⟨_, (((((((ReflTransGen.refl.tail (.time false rfl)).tail (.edit (some .empty) 6 ?_)).tail
    (.read false rfl)).tail (.keep false rfl)).tail (.time true rfl)).tail (.read true rfl)).tail
    (.keep true rfl)), ?_, ?_⟩
  · with_unfolding_all rfl
  · with_unfolding_all rfl
  · with_unfolding_all decide

/-- What the second load kept is what the emptied file holds. -/
theorem sampleRace_kept_holds :
    ∃ s, sampleRace.Start sampleStart ∧ ReflTransGen sampleRace.Step sampleStart s ∧
      s.store.get? (keyAt sampleRace.suffix sampleRace.place) = some ⟨6, .empty⟩ ∧
      ∃ i, s.progress i = .ended (some ⟨6, .empty⟩) ∧
        (sampleRace.discovery i).Holds s.files (sampleRace.file i) .empty := by
  obtain ⟨s, hs, hget, htime⟩ := exists_reachable_sampleStart
  obtain ⟨i, hi, hlater⟩ := (kept_holds_while_timed sampleRace start_sampleStart hs).1 _ hget
  exact ⟨s, start_sampleStart, hs, hget, i, hi, hlater s .refl htime⟩

end LoadRace

end PluginHost
