import Mathlib.Data.List.Induction
import PluginHost.Proofs.Discovery.Processing

/-!
Runs of a processed source while the source below it changes. From which definitions a lookup
answers can be told from the run alone: from those of the first lookup since the last clear at which
processing succeeded; before there is one, from the source as it is.
-/
namespace PluginHost

inductive Call (σ : Type)
  | change (alter : σ → σ)
  | definitions
  | definition (id : String) (strict : Bool)
  | has (id : String)
  | clear

def Call.IsLookup {σ : Type} : Call σ → Prop
  | definitions | definition _ _ | has _ => True
  | change _ | clear => False

theorem Call.isLookup_or {σ : Type} (call : Call σ) :
    call.IsLookup ∨ (∃ alter, call = .change alter) ∨ call = .clear := by
  cases call with
  | change alter => exact .inr (.inl ⟨alter, rfl⟩)
  | clear => exact .inr (.inr rfl)
  | definitions | definition | has => exact .inl trivial

def Discovery.AnswersFrom {σ : Type} (source : Discovery σ) (s : σ)
    (answer : Except PluginError DefinitionMap) : Prop :=
  source.definitions.result s = answer ∧
    (∀ id strict, (source.definition id strict).result s =
      answer.bind fun all => found (all.get? id) id strict) ∧
    ∀ id, (source.has id).result s = answer.map fun all => all.contains id

section Derived

variable {σ : Type}

theorem Discovery.outcome_derived_definition (definitions : Action σ DefinitionMap) (id : String)
    (strict : Bool) (s : σ) :
    (({ definitions } : Discovery σ).definition id strict).outcome s =
      ((definitions.result s).bind fun all => found (all.get? id) id strict, definitions.after s) := by
  change Action.outcome (definitions >>= fun all =>
    (liftM (found (all.get? id) id strict) : Action _ _)) s = _
  rw [Action.outcome_bind]
  unfold Action.result Action.after
  rcases definitions.outcome s with ⟨e | all, t⟩ <;> rfl

theorem Discovery.outcome_derived_has (definitions : Action σ DefinitionMap)
    (definition : String → Bool → Action σ (Option Definition)) (id : String) (s : σ) :
    (({ definitions, definition } : Discovery σ).has id).outcome s =
      (((definition id false).result s).map Option.isSome, (definition id false).after s) := by
  change Action.outcome (definition id false >>= fun d => (pure d.isSome : Action _ _)) s = _
  rw [Action.outcome_bind]
  unfold Action.result Action.after
  rcases (definition id false).outcome s with ⟨e | d, t⟩ <;> rfl

theorem map_isSome_found (answer : Except PluginError DefinitionMap) (id : String) :
    (answer.bind fun all => found (all.get? id) id false).map Option.isSome =
      answer.map fun all => all.contains id := by
  cases answer with
  | error e => rfl
  | ok all =>
    unfold KeyedMap.contains
    dsimp only [Except.bind, Except.map]
    cases all.get? id <;> rfl

end Derived

namespace Processing

variable {σ : Type} (p : Processing) (source : Discovery σ)

def perform (s : Memoized σ) : Call σ → Memoized σ
  | .change alter => { s with inner := alter s.inner }
  | .definitions => (p.discovery source).definitions.after s
  | .definition id strict => ((p.discovery source).definition id strict).after s
  | .has id => ((p.discovery source).has id).after s
  | .clear => Memoized.clear.after s

def afterCalls (s : Memoized σ) (calls : List (Call σ)) : Memoized σ :=
  calls.foldl (p.perform source) s

def processedAt (inner : σ) : Except PluginError DefinitionMap :=
  (source.definitions.result inner).bind p.processed

/-- At no lookup since the last clear did processing succeed. -/
def Unprocessed (s : Memoized σ) (calls : List (Call σ)) : Prop :=
  ∀ before lookup since, calls = before ++ lookup :: since → lookup.IsLookup → .clear ∉ since →
    ∃ e, p.processedAt source (p.afterCalls source s before).inner = .error e

/-- These are the definitions of the first lookup since the last clear at which processing
succeeded. -/
def FirstProcessed (s : Memoized σ) (calls : List (Call σ)) (all : DefinitionMap) : Prop :=
  ∃ before lookup since, calls = before ++ lookup :: since ∧ lookup.IsLookup ∧ .clear ∉ since ∧
    p.Unprocessed source s before ∧
    p.processedAt source (p.afterCalls source s before).inner = .ok all

variable {p source} {s : Memoized σ}

theorem outcome_discovery_definition (id : String) (strict : Bool) (s : Memoized σ) :
    ((p.discovery source).definition id strict).outcome s =
      ((p.definitions source).result s |>.bind fun all => found (all.get? id) id strict,
        (p.definitions source).after s) :=
  Discovery.outcome_derived_definition (p.definitions source) id strict s

theorem outcome_discovery_has (id : String) (s : Memoized σ) :
    ((p.discovery source).has id).outcome s =
      ((p.definitions source).result s |>.map fun all => all.contains id,
        (p.definitions source).after s) := by
  have hone : ((p.discovery source).definition id false).outcome s = _ :=
    outcome_discovery_definition id false s
  refine (Discovery.outcome_derived_has _ (p.discovery source).definition id s).trans ?_
  unfold Action.result Action.after at hone ⊢
  rw [hone, map_isSome_found]

theorem answersFrom_of_result {answer : Except PluginError DefinitionMap}
    (h : (p.definitions source).result s = answer) :
    (p.discovery source).AnswersFrom s answer := by
  subst h
  exact ⟨rfl, fun id strict => congrArg Prod.fst (outcome_discovery_definition id strict s),
    fun id => congrArg Prod.fst (outcome_discovery_has id s)⟩

theorem perform_lookup {lookup : Call σ} (h : lookup.IsLookup) (s : Memoized σ) :
    p.perform source s lookup = (p.definitions source).after s := by
  cases lookup with
  | definitions => rfl
  | definition id strict => exact congrArg Prod.snd (outcome_discovery_definition id strict s)
  | has id => exact congrArg Prod.snd (outcome_discovery_has id s)
  | change | clear => cases h

theorem result_definitions_of_fresh (hs : p.memoize = true → s.memo = none) :
    (p.definitions source).result s = p.processedAt source s.inner := by
  unfold processedAt Action.result
  rw [outcome_definitions_of_fresh p source hs, outcome_fresh]
  rcases source.definitions.outcome s.inner with ⟨e | discovered, inner⟩
  · rfl
  · dsimp only [Except.bind]
    cases p.processed discovered <;> rfl

theorem after_definitions_of_fresh (hs : p.memoize = true → s.memo = none) :
    (p.definitions source).after s =
      { inner := source.definitions.after s.inner
        memo := if p.memoize then (p.processedAt source s.inner).toOption else s.memo } := by
  unfold processedAt Action.result Action.after
  rw [outcome_definitions_of_fresh p source hs, outcome_fresh]
  rcases source.definitions.outcome s.inner with ⟨e | discovered, inner⟩
  · cases hp : p.memoize <;> simp [hs, hp, Except.bind, Except.toOption]
  · dsimp only [Except.bind]
    cases p.processed discovered <;>
      cases hp : p.memoize <;> simp [hs, hp, Except.toOption]

theorem afterCalls_append (s : Memoized σ) (earlier later : List (Call σ)) :
    p.afterCalls source s (earlier ++ later) =
      p.afterCalls source (p.afterCalls source s earlier) later :=
  List.foldl_append

theorem afterCalls_concat (s : Memoized σ) (calls : List (Call σ)) (call : Call σ) :
    p.afterCalls source s (calls ++ [call]) = p.perform source (p.afterCalls source s calls) call :=
  afterCalls_append s calls [call]

/-! A run that is one call longer. -/

section Concat

variable {calls : List (Call σ)} {call : Call σ}

theorem concat_eq_append_cons_iff {α : Type} {items before since : List α} {item last : α} :
    items ++ [last] = before ++ item :: since ↔
      (items = before ∧ last = item ∧ since = []) ∨
        ∃ rest, since = rest ++ [last] ∧ items = before ++ item :: rest := by
  constructor
  · intro h
    rcases List.eq_nil_or_concat since with rfl | ⟨rest, final, rfl⟩
    · obtain ⟨hitems, hlast⟩ := List.append_inj' h rfl
      cases hlast
      exact .inl ⟨hitems, rfl, rfl⟩
    · rw [List.concat_eq_append] at h ⊢
      have hsplit : items ++ [last] = (before ++ item :: rest) ++ [final] := by simpa using h
      obtain ⟨hitems, hlast⟩ := List.append_inj' hsplit rfl
      cases hlast
      exact .inr ⟨rest, rfl, hitems⟩
  · rintro (⟨rfl, rfl, rfl⟩ | ⟨rest, rfl, rfl⟩) <;> simp

theorem unprocessed_concat_iff :
    p.Unprocessed source s (calls ++ [call]) ↔
      (call.IsLookup → ∃ e, p.processedAt source (p.afterCalls source s calls).inner = .error e) ∧
        (call ≠ .clear → p.Unprocessed source s calls) := by
  constructor
  · intro h
    refine ⟨fun hlookup => h calls call [] rfl hlookup List.not_mem_nil, ?_⟩
    rintro hclear before lookup since rfl hlookup hsince
    refine h before lookup (since ++ [call]) (by simp) hlookup ?_
    simp [hsince, Ne.symm hclear]
  · rintro ⟨hlast, hearlier⟩ before lookup since hcalls hlookup hsince
    rcases concat_eq_append_cons_iff.1 hcalls with ⟨rfl, rfl, rfl⟩ | ⟨rest, rfl, hrest⟩
    · exact hlast hlookup
    · simp only [List.mem_append, List.mem_singleton, not_or] at hsince
      exact hearlier (Ne.symm hsince.2) before lookup rest hrest hlookup hsince.1

theorem firstProcessed_concat_iff {all : DefinitionMap} :
    p.FirstProcessed source s (calls ++ [call]) all ↔
      (call.IsLookup ∧ p.Unprocessed source s calls ∧
        p.processedAt source (p.afterCalls source s calls).inner = .ok all) ∨
      (call ≠ .clear ∧ p.FirstProcessed source s calls all) := by
  constructor
  · rintro ⟨before, lookup, since, hcalls, hlookup, hsince, hfirst⟩
    rcases concat_eq_append_cons_iff.1 hcalls with ⟨rfl, rfl, rfl⟩ | ⟨rest, rfl, hrest⟩
    · exact .inl ⟨hlookup, hfirst⟩
    · simp only [List.mem_append, List.mem_singleton, not_or] at hsince
      exact .inr ⟨Ne.symm hsince.2, before, lookup, rest, hrest, hlookup, hsince.1, hfirst⟩
  · rintro (⟨hlookup, hfirst⟩ | ⟨hclear, before, lookup, since, rfl, hlookup, hsince, hfirst⟩)
    · exact ⟨calls, call, [], rfl, hlookup, List.not_mem_nil, hfirst⟩
    · refine ⟨before, lookup, since ++ [call], by simp, hlookup, ?_, hfirst⟩
      simp [hsince, Ne.symm hclear]

end Concat

/-- What is remembered after a run is what was processed first since the last clear, and nothing if
nothing was. -/
structure Remembers (p : Processing) (source : Discovery σ) (s : Memoized σ)
    (calls : List (Call σ)) : Prop where
  first : ∀ all, (p.afterCalls source s calls).memo = some all ↔ p.FirstProcessed source s calls all
  nothing : (p.afterCalls source s calls).memo = none ↔ p.Unprocessed source s calls

theorem remembers_nil (hs : s.memo = none) : p.Remembers source s [] where
  first all := by
    constructor
    · intro h
      cases hs.symm.trans h
    · rintro ⟨before, lookup, since, h, -⟩
      simp at h
  nothing := by
    refine ⟨fun _ before lookup since h => ?_, fun _ => hs⟩
    simp at h

theorem Remembers.lookup {calls : List (Call σ)} {lookup : Call σ}
    (h : p.Remembers source s calls) (hp : p.memoize = true) (hlookup : lookup.IsLookup) :
    p.Remembers source s (calls ++ [lookup]) := by
  have hclear : lookup ≠ .clear := by
    rintro rfl
    cases hlookup
  have hafter : p.afterCalls source s (calls ++ [lookup]) =
      p.perform source (p.afterCalls source s calls) lookup := afterCalls_concat s calls lookup
  rw [perform_lookup hlookup] at hafter
  cases hmemo : (p.afterCalls source s calls).memo with
  | some all =>
    have hsame : (p.definitions source).after (p.afterCalls source s calls) =
        p.afterCalls source s calls :=
      congrArg Prod.snd (outcome_definitions_of_memo p source hp hmemo)
    have hnot : ¬p.Unprocessed source s calls := by
      rw [← h.nothing, hmemo]
      simp
    rw [hsame] at hafter
    constructor
    · intro other
      rw [hafter, h.first, firstProcessed_concat_iff]
      simp [hnot, hclear]
    · rw [hafter, h.nothing, unprocessed_concat_iff]
      simp [hnot, hclear]
  | none =>
    have hearlier : p.Unprocessed source s calls := h.nothing.1 hmemo
    have hnone : ∀ all, ¬p.FirstProcessed source s calls all := by
      intro all
      rw [← h.first, hmemo]
      simp
    rw [after_definitions_of_fresh fun _ => hmemo, hp] at hafter
    constructor
    · intro all
      rw [hafter, firstProcessed_concat_iff]
      cases p.processedAt source (p.afterCalls source s calls).inner <;>
        simp [Except.toOption, hlookup, hearlier, hnone]
    · rw [hafter, unprocessed_concat_iff]
      cases p.processedAt source (p.afterCalls source s calls).inner <;>
        simp [Except.toOption, hlookup, hearlier]

theorem Remembers.concat {calls : List (Call σ)} (h : p.Remembers source s calls)
    (hp : p.memoize = true) (call : Call σ) : p.Remembers source s (calls ++ [call]) := by
  cases call with
  | change alter =>
    have hmemo : (p.afterCalls source s (calls ++ [.change alter])).memo =
        (p.afterCalls source s calls).memo := by
      rw [afterCalls_concat]
      rfl
    constructor
    · intro all
      rw [hmemo, h.first, firstProcessed_concat_iff]
      simp [Call.IsLookup]
    · rw [hmemo, h.nothing, unprocessed_concat_iff]
      simp [Call.IsLookup]
  | clear =>
    have hmemo : (p.afterCalls source s (calls ++ [.clear])).memo = none := by
      rw [afterCalls_concat]
      rfl
    constructor
    · intro all
      rw [hmemo, firstProcessed_concat_iff]
      simp [Call.IsLookup]
    · rw [hmemo, unprocessed_concat_iff]
      simp [Call.IsLookup]
  | definitions | definition | has => exact h.lookup hp trivial

theorem remembers_afterCalls (hp : p.memoize = true) (hs : s.memo = none) (calls : List (Call σ)) :
    p.Remembers source s calls := by
  induction calls using List.reverseRecOn with
  | nil => exact remembers_nil hs
  | append_singleton calls call ih => exact ih.concat hp call

theorem memo_afterCalls_of_not_memoize (hp : p.memoize = false) (hs : s.memo = none)
    (calls : List (Call σ)) : (p.afterCalls source s calls).memo = none := by
  induction calls using List.reverseRecOn with
  | nil => exact hs
  | append_singleton calls call ih =>
    rw [afterCalls_concat]
    rcases call.isLookup_or with hlookup | ⟨alter, rfl⟩ | rfl
    · rw [perform_lookup hlookup, after_definitions_of_fresh fun _ => ih, hp]
      exact ih
    · exact ih
    · rfl

/-- In a run of a processed source whose inner source changes in any way, a lookup answers from the
first definitions that a lookup since the last clear could process. While there are none it answers
with what processing makes of the inner source now; if that fails, the failure is the answer, and
all that comes later is as if the inner source alone had been asked. Without a memo every lookup
answers with what processing makes of the inner source now. -/
theorem lookups_answer_firstProcessed (p : Processing) (source : Discovery σ) (inner : σ)
    (calls : List (Call σ)) :
    let now := p.afterCalls source { inner } calls
    (p.memoize = true →
      (∀ all, p.FirstProcessed source { inner } calls all →
        (p.discovery source).AnswersFrom now (.ok all)) ∧
      ((∀ all, ¬p.FirstProcessed source { inner } calls all) →
        (p.discovery source).AnswersFrom now (p.processedAt source now.inner) ∧
        ∀ e, p.processedAt source now.inner = .error e →
          ∀ lookup later, lookup.IsLookup →
            p.afterCalls source { inner } (calls ++ lookup :: later) =
              p.afterCalls source { inner }
                (calls ++ .change source.definitions.after :: later))) ∧
    (p.memoize = false →
      (p.discovery source).AnswersFrom now (p.processedAt source now.inner)) := by
  intro now
  refine ⟨fun hp => ?_, fun hp => ?_⟩
  · have hremembers : p.Remembers source { inner } calls := remembers_afterCalls hp rfl calls
    refine ⟨fun all hfirst => ?_, fun hnone => ?_⟩
    · have hmemo := (hremembers.first all).2 hfirst
      exact answersFrom_of_result (congrArg Prod.fst (outcome_definitions_of_memo p source hp hmemo))
    · have hmemo : now.memo = none := by
        rw [Option.eq_none_iff_forall_ne_some]
        exact fun all hall => hnone all ((hremembers.first all).1 hall)
      refine ⟨answersFrom_of_result (result_definitions_of_fresh fun _ => hmemo), ?_⟩
      intro e he lookup later hlookup
      have hafter : (p.definitions source).after now =
          { now with inner := source.definitions.after now.inner } := by
        rw [after_definitions_of_fresh fun _ => hmemo, hp, he, hmemo]
        rfl
      rw [List.append_cons, afterCalls_append, afterCalls_concat, perform_lookup hlookup,
        List.append_cons, afterCalls_append, afterCalls_concat]
      exact congrArg (p.afterCalls source · later) hafter
  · have hmemo : now.memo = none := memo_afterCalls_of_not_memoize hp rfl calls
    exact answersFrom_of_result (result_definitions_of_fresh fun _ => hmemo)

def statedSource : Discovery (Except PluginError DefinitionMap) where
  definitions := get >>= fun answer => liftM answer

def sampleAnswer : DefinitionMap := KeyedMap.empty.insert "block" { id := "block" }

def sampleFailure : PluginError := .internal "down"

/-- The source is down at the first lookup, up at the second, and changes again afterwards. -/
def sampleCalls : List (Call (Except PluginError DefinitionMap)) :=
  [.definitions, .change fun _ => .ok sampleAnswer, .has "block", .change fun _ => .ok .empty]

theorem firstProcessed_sampleCalls : ({} : Processing).FirstProcessed statedSource
    { inner := .error sampleFailure } sampleCalls sampleAnswer := by
  refine ⟨sampleCalls.take 2, .has "block", sampleCalls.drop 3, rfl, trivial, ?_, ?_, rfl⟩
  · simp [sampleCalls]
  · have hdown : ({} : Processing).Unprocessed statedSource { inner := .error sampleFailure }
        ([] ++ [.definitions]) :=
      unprocessed_concat_iff.2 ⟨fun _ => ⟨sampleFailure, rfl⟩,
        fun _ => (remembers_nil rfl).nothing.1 rfl⟩
    exact unprocessed_concat_iff.2 ⟨False.elim, fun _ => hdown⟩

/-- The definitions of the second lookup are the answer, though the source has others now. -/
theorem sampleCalls_answer_firstProcessed :
    ({} : Processing).memoize = true ∧
      ({} : Processing).FirstProcessed statedSource { inner := .error sampleFailure } sampleCalls
        sampleAnswer ∧
      (({} : Processing).discovery statedSource).AnswersFrom
        (({} : Processing).afterCalls statedSource { inner := .error sampleFailure } sampleCalls)
        (.ok sampleAnswer) :=
  ⟨rfl, firstProcessed_sampleCalls,
    ((lookups_answer_firstProcessed {} statedSource (.error sampleFailure) sampleCalls).1 rfl).1
      sampleAnswer firstProcessed_sampleCalls⟩

end Processing

end PluginHost
