import Mathlib.Logic.Function.Basic
import PluginHost.Discovery.Static
import PluginHost.Proofs.Discovery.Memoization

/-!
Lookups of one processed source that run at the same time, with clears of its memo between their
steps. A lookup reads the memo; if nothing is there it processes the source's definitions, and then
writes them into the memo. What a lookup has processed by a clear but not written is written after
it, so the clear holds exactly if no lookup stands there.
-/
namespace PluginHost.MemoRace

open Processing (processedAt)

inductive Progress
  | waiting
  | missed
  | processed (all : DefinitionMap)
  | answered (answer : Except PluginError DefinitionMap)

def Progress.ofMemo : Option DefinitionMap → Progress
  | some all => .answered (.ok all)
  | none => .missed

def Progress.ofProcessed : Except PluginError DefinitionMap → Progress
  | .ok all => .processed all
  | .error e => .answered (.error e)

structure State (σ ι : Type) extends Memoized σ where
  progress : ι → Progress

inductive Move (σ ι : Type)
  | change (alter : σ → σ)
  | clear
  | read (i : ι)
  | process (i : ι)
  | write (i : ι)

variable {σ ι : Type}

def State.begin (inner : σ) : State σ ι := { inner, progress := fun _ => .waiting }

/-- These definitions were processed before a run and were written in its course. -/
def WrittenLate (s : State σ ι) (moves : List (Move σ ι)) (all : DefinitionMap) : Prop :=
  ∃ i, s.progress i = .processed all ∧ .write i ∈ moves

theorem WrittenLate.append {s : State σ ι} {moves : List (Move σ ι)} {all : DefinitionMap}
    (h : WrittenLate s moves all) (more : List (Move σ ι)) : WrittenLate s (moves ++ more) all := by
  obtain ⟨i, hi, hwrite⟩ := h
  exact ⟨i, hi, List.mem_append_left _ hwrite⟩

variable [DecidableEq ι]

def State.goOn (s : State σ ι) (i : ι) (progress : Progress) : State σ ι :=
  { s with progress := Function.update s.progress i progress }

variable (p : Processing) (source : Discovery σ)

/-- A lookup that is not where the move starts from stays where it is. -/
def perform (s : State σ ι) : Move σ ι → State σ ι
  | .change alter => { s with inner := alter s.inner }
  | .clear => { s with toMemoized := Memoized.clear.after s.toMemoized }
  | .read i =>
    match s.progress i with
    | .waiting => s.goOn i (.ofMemo s.memo)
    | _ => s
  | .process i =>
    match s.progress i with
    | .missed =>
      let (result, memoized) := (p.fresh source).outcome s.toMemoized
      { s with toMemoized := memoized }.goOn i (.ofProcessed result)
    | _ => s
  | .write i =>
    match s.progress i with
    | .processed all => { s with memo := some all }.goOn i (.answered (.ok all))
    | _ => s

def run (s : State σ ι) (moves : List (Move σ ι)) : State σ ι := moves.foldl (perform p source) s

/-- In the course of a run a lookup processed the source's definitions, and these came out. -/
def ProcessedIn (s : State σ ι) (moves : List (Move σ ι)) (all : DefinitionMap) : Prop :=
  ∃ earlier i later, moves = earlier ++ .process i :: later ∧
    (run p source s earlier).progress i = .missed ∧
    p.processedAt source (run p source s earlier).inner = .ok all

/-- Every lookup that begins after a clear, however it takes turns with others, answers with
definitions that were processed after the clear. -/
def ClearHolds (s : State σ ι) : Prop :=
  ∀ moves i all, s.progress i = .waiting →
    (run p source (perform p source s .clear) moves).progress i = .answered (.ok all) →
      ProcessedIn p source (perform p source s .clear) moves all

variable {p source} {s : State σ ι} {i : ι} {all : DefinitionMap} {moves : List (Move σ ι)}

theorem perform_read (h : s.progress i = .waiting) :
    perform p source s (.read i) = s.goOn i (.ofMemo s.memo) := by
  simp only [perform, h]

theorem perform_process (h : s.progress i = .missed) : perform p source s (.process i) =
    { s with inner := source.definitions.after s.inner }.goOn i
      (.ofProcessed (p.processedAt source s.inner)) := by
  have hfresh : (p.fresh source).outcome s.toMemoized = (p.processedAt source s.inner,
      { s.toMemoized with inner := source.definitions.after s.inner }) := by
    rw [Processing.outcome_fresh]
    unfold processedAt Action.result Action.after
    rcases source.definitions.outcome s.inner with ⟨e | discovered, inner⟩ <;> rfl
  simp only [perform, h, hfresh]

theorem perform_write (h : s.progress i = .processed all) : perform p source s (.write i) =
    { s with memo := some all }.goOn i (.answered (.ok all)) := by
  simp only [perform, h]

theorem run_lookup (hp : p.memoize = true) (hi : s.progress i = .waiting) :
    run p source s [.read i, .process i, .write i] =
      { s with toMemoized := (p.definitions source).after s.toMemoized }.goOn i
        (.answered ((p.definitions source).result s.toMemoized)) := by
  change perform p source (perform p source (perform p source s (.read i)) (.process i))
    (.write i) = _
  rw [perform_read hi]
  cases hmemo : s.memo with
  | some all =>
    have hknown := Processing.outcome_definitions_of_memo p source hp hmemo
    simp [perform, State.goOn, Progress.ofMemo, Action.after, Action.result, hknown]
  | none =>
    have hmissed : (s.goOn i .missed).progress i = .missed := by simp [State.goOn]
    rw [Processing.after_definitions_of_fresh fun _ => hmemo,
      Processing.result_definitions_of_fresh fun _ => hmemo]
    change perform p source (perform p source (s.goOn i .missed) (.process i)) (.write i) = _
    rw [perform_process hmissed]
    cases hanswer : p.processedAt source s.inner with
    | ok all => simp [perform, State.goOn, Progress.ofProcessed, hp, hanswer, Except.toOption]
    | error e =>
      simp [perform, State.goOn, Progress.ofProcessed, hp, hanswer, hmemo, Except.toOption]

/-! Where the definitions of a run come from that begins with nothing in the memo. -/

theorem run_concat (s : State σ ι) (moves : List (Move σ ι)) (move : Move σ ι) :
    run p source s (moves ++ [move]) = perform p source (run p source s moves) move := by
  simp [run]

theorem ProcessedIn.append (h : ProcessedIn p source s moves all) (more : List (Move σ ι)) :
    ProcessedIn p source s (moves ++ more) all := by
  obtain ⟨earlier, i, later, rfl, hmissed, hall⟩ := h
  exact ⟨earlier, i, later ++ more, by simp, hmissed, hall⟩

theorem processedIn_concat (hi : (run p source s moves).progress i = .missed)
    (hall : p.processedAt source (run p source s moves).inner = .ok all) :
    ProcessedIn p source s (moves ++ [.process i]) all :=
  ⟨moves, i, [], rfl, hi, hall⟩

variable (p source) in
/-- Definitions at which a lookup stands were processed in the run, or it stood there before; those
that it answered with may also have been written late, or have been its answer before. -/
def Accounts (s : State σ ι) (moves : List (Move σ ι)) (i : ι) : Progress → Prop
  | .processed all => ProcessedIn p source s moves all ∨ s.progress i = .processed all
  | .answered (.ok all) =>
    ProcessedIn p source s moves all ∨ WrittenLate s moves all ∨ s.progress i = .answered (.ok all)
  | .waiting | .missed | .answered (.error _) => True

theorem Accounts.append {progress : Progress} (h : Accounts p source s moves i progress)
    (more : List (Move σ ι)) : Accounts p source s (moves ++ more) i progress := by
  cases progress with
  | processed all => exact h.imp_left (·.append more)
  | answered answer =>
    cases answer with
    | ok all => exact h.imp (·.append more) (Or.imp_left (·.append more))
    | error e => trivial
  | waiting | missed => trivial

theorem accounts_start (i : ι) : Accounts p source s [] i (s.progress i) := by
  cases hi : s.progress i with
  | processed all => exact .inr hi
  | answered answer =>
    cases answer with
    | ok all => exact .inr (.inr hi)
    | error e => trivial
  | waiting | missed => trivial

variable (p source) in
structure Accounted (s : State σ ι) (moves : List (Move σ ι)) : Prop where
  memo : ∀ all, (run p source s moves).memo = some all →
    ProcessedIn p source s moves all ∨ WrittenLate s moves all
  progress : ∀ i, Accounts p source s moves i ((run p source s moves).progress i)

variable {move : Move σ ι}

theorem Accounted.stay (h : Accounted p source s moves)
    (hmemo : ∀ all, (perform p source (run p source s moves) move).memo = some all →
      (run p source s moves).memo = some all)
    (hprogress : (perform p source (run p source s moves) move).progress =
      (run p source s moves).progress) : Accounted p source s (moves ++ [move]) where
  memo all hall := by
    rw [run_concat] at hall
    exact (h.memo all (hmemo all hall)).imp (·.append _) (·.append _)
  progress i := by
    rw [run_concat, hprogress]
    exact (h.progress i).append _

theorem Accounted.idle (h : Accounted p source s moves)
    (hsame : perform p source (run p source s moves) move = run p source s moves) :
    Accounted p source s (moves ++ [move]) := by
  apply h.stay
  · rw [hsame]
    exact fun _ hall => hall
  · rw [hsame]

theorem Accounted.goOn (h : Accounted p source s moves) {t : State σ ι} {progress : Progress}
    (hmove : perform p source (run p source s moves) move = t.goOn i progress)
    (hothers : t.progress = (run p source s moves).progress)
    (hmemo : ∀ all, t.memo = some all →
      ProcessedIn p source s (moves ++ [move]) all ∨ WrittenLate s (moves ++ [move]) all)
    (hi : Accounts p source s (moves ++ [move]) i progress) :
    Accounted p source s (moves ++ [move]) where
  memo all hall := by
    rw [run_concat, hmove] at hall
    exact hmemo all hall
  progress j := by
    rw [run_concat, hmove]
    change Accounts p source s (moves ++ [move]) j (Function.update t.progress i progress j)
    rw [Function.update_apply, hothers]
    split
    · next hj => exact hj ▸ hi
    · exact (h.progress j).append _

theorem Accounted.concat (h : Accounted p source s moves) (move : Move σ ι) :
    Accounted p source s (moves ++ [move]) := by
  have hkept : ∀ all, (run p source s moves).memo = some all →
      ProcessedIn p source s (moves ++ [move]) all ∨ WrittenLate s (moves ++ [move]) all :=
    fun all hall => (h.memo all hall).imp (·.append _) (·.append _)
  cases move with
  | change alter => exact h.stay (fun _ hall => hall) rfl
  | clear => exact h.stay (fun _ hall => by cases hall) rfl
  | read i =>
    cases hi : (run p source s moves).progress i with
    | waiting =>
      refine h.goOn (perform_read hi) rfl hkept ?_
      cases hmemo : (run p source s moves).memo with
      | some all => exact (hkept all hmemo).imp_right .inl
      | none => trivial
    | missed | processed | answered => exact h.idle (by simp only [perform, hi])
  | process i =>
    cases hi : (run p source s moves).progress i with
    | missed =>
      refine h.goOn (perform_process hi) rfl hkept ?_
      cases hanswer : p.processedAt source (run p source s moves).inner with
      | ok all => exact .inl (processedIn_concat hi hanswer)
      | error e => trivial
    | waiting | processed | answered => exact h.idle (by simp only [perform, hi])
  | write i =>
    cases hi : (run p source s moves).progress i with
    | processed all =>
      have horigin : ProcessedIn p source s (moves ++ [.write i]) all ∨
          WrittenLate s (moves ++ [.write i]) all := by
        have hstood := h.progress i
        rw [hi] at hstood
        exact hstood.imp (·.append _) fun hbefore => ⟨i, hbefore, by simp⟩
      refine h.goOn (perform_write hi) rfl (fun other hother => ?_) (horigin.imp_right .inl)
      cases hother
      exact horigin
    | waiting | missed | answered => exact h.idle (by simp only [perform, hi])

theorem accounted (h : s.memo = none) (moves : List (Move σ ι)) : Accounted p source s moves := by
  induction moves using List.reverseRecOn with
  | nil =>
    constructor
    · intro all hall
      cases h.symm.trans hall
    · exact accounts_start
  | append_singleton moves move ih => exact ih.concat move

theorem processedIn_or_writtenLate (hi : s.progress i = .waiting)
    (hall : (run p source (perform p source s .clear) moves).progress i = .answered (.ok all)) :
    ProcessedIn p source (perform p source s .clear) moves all ∨ WrittenLate s moves all := by
  have haccounted : Accounted p source (perform p source s .clear) moves := accounted rfl moves
  have hanswer := haccounted.progress i
  rw [hall] at hanswer
  rcases hanswer with hprocessed | hlate | hbefore
  · exact .inl hprocessed
  · exact .inr hlate
  · cases hi.symm.trans hbefore

theorem not_clearHolds_of_processed {j : ι} (hi : s.progress i = .waiting)
    (hj : s.progress j = .processed all) : ¬ClearHolds p source s := by
  intro h
  have hne : i ≠ j := by
    rintro rfl
    cases hi.symm.trans hj
  have hanswer : (run p source (perform p source s .clear) [.write j, .read i]).progress i =
      .answered (.ok all) := by
    change (perform p source (perform p source (perform p source s .clear) (.write j))
      (.read i)).progress i = _
    rw [perform_write (s := perform p source s .clear) hj, perform_read]
    · exact Function.update_self ..
    · exact (Function.update_of_ne hne _ _).trans hi
  -- in these two moves nothing is processed
  obtain ⟨earlier, k, later, hmoves, -⟩ := h [.write j, .read i] i all hi hanswer
  have hmem : (.process k : Move σ ι) ∈ [.write j, .read i] := by
    rw [hmoves]
    exact List.mem_append_right _ List.mem_cons_self
  simp at hmem

/-- A clear holds exactly if no lookup stands at that moment with definitions that it has processed
and not written. In any case what a lookup answers that begins after it was processed since, or was
processed before and written since by a lookup that stood there. -/
theorem clearHolds_iff (p : Processing) (source : Discovery σ) (s : State σ ι) (i : ι)
    (hi : s.progress i = .waiting) :
    (ClearHolds p source s ↔ ∀ j all, s.progress j ≠ .processed all) ∧
      ∀ moves all,
        (run p source (perform p source s .clear) moves).progress i = .answered (.ok all) →
          ProcessedIn p source (perform p source s .clear) moves all ∨ WrittenLate s moves all := by
  refine ⟨⟨fun h j all hj => not_clearHolds_of_processed hi hj h, fun h => ?_⟩, fun moves all hall =>
    processedIn_or_writtenLate hi hall⟩
  intro moves k all hk hall
  refine (processedIn_or_writtenLate hk hall).resolve_right ?_
  rintro ⟨j, hj, -⟩
  exact h j all hj

def sampleDefinitions : DefinitionMap := KeyedMap.empty.insert "block" { id := "block" }

/-- One of two lookups is done, and the other one still to begin. -/
def sampleState : State DefinitionMap Bool :=
  run {} Discovery.static (.begin sampleDefinitions) [.read false, .process false, .write false]

theorem clearHolds_sampleState :
    sampleState.progress true = .waiting ∧ ClearHolds {} Discovery.static sampleState := by
  refine ⟨rfl, (clearHolds_iff {} Discovery.static sampleState true rfl).1.2 fun j all hj => ?_⟩
  cases j <;> cases hj

/-- The first lookup has processed the definitions, the source has others by then, and its memo is
cleared. When the first has written them, the second answers with them. -/
theorem not_every_clear_holds :
    ¬∀ (inner : DefinitionMap) (before : List (Move DefinitionMap Bool)),
      ClearHolds {} Discovery.static (run {} Discovery.static (.begin inner) before) := by
  intro h
  apply not_clearHolds_of_processed (i := true) (j := false) _ _ (h sampleDefinitions
    [.read false, .process false, .change fun _ => .empty])
  · exact sampleDefinitions
  · rfl
  · rfl

end PluginHost.MemoRace
