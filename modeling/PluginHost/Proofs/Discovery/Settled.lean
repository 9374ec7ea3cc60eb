import PluginHost.Discovery.Static
import PluginHost.Proofs.Discovery.Invariant

/-!
Processing without alterations, done twice. What it gives is settled: every definition stands under
its own id, has no deriver left and no default missing, and its provider is installed. Settled
definitions are what processing leaves as they are, so a second processed source over a first one
answers like the first.
-/
namespace PluginHost

namespace Processing

variable {σ : Type} {p q : Processing}

/-- The same derivers and defaults, and the same installed providers; whether the result is
remembered may differ. -/
structure SameRules (p q : Processing) : Prop where
  derivers : q.derivers = p.derivers
  defaults : q.defaults = p.defaults
  installed : ∀ d, q.isInstalled d = p.isInstalled d

/-- Nothing is left to be done with the definition: it is plain, its metadata has every default's
key, and its provider is installed. -/
structure Settled (p : Processing) (d : Definition) : Prop where
  deriver : d.deriver = none
  filled : ∀ key value, p.defaults.get? key = some value → ∃ held, d.metadata.get? key = some held
  installed : p.isInstalled d = true

/-! What the steps of processing do to one definition. -/

theorem get?_fillDefaults (p : Processing) (d : Definition) (key : String) :
    (p.fillDefaults d).metadata.get? key = (d.metadata.get? key).or (p.defaults.get? key) := by
  have hfold : ∀ (entries : List (String × Value)) (metadata : KeyedMap Value),
      (entries.foldl (fun metadata e =>
        if metadata.contains e.1 then metadata else metadata.insert e.1 e.2) metadata).get? key =
          (metadata.get? key).or (Keyed.get? key entries) := by
    intro entries
    induction entries with
    | nil => simp [Keyed.get?]
    | cons e rest ih =>
      intro metadata
      rw [List.foldl_cons, ih, Keyed.get?]
      by_cases hkey : e.1 = key
      · subst hkey
        unfold KeyedMap.contains
        cases hheld : metadata.get? e.1 with
        | some held => simp [hheld]
        | none => simp
      · rw [if_neg hkey]
        split
        · rfl
        · rw [KeyedMap.get?_insert, if_neg hkey]
  exact hfold p.defaults.entries d.metadata

theorem settled_fillDefaults {d : Definition} (hderiver : d.deriver = none)
    (hinstalled : p.isInstalled (p.fillDefaults d) = true) : p.Settled (p.fillDefaults d) where
  deriver := hderiver
  filled key value hvalue := by
    rw [get?_fillDefaults, hvalue]
    cases d.metadata.get? key with
    | some held => exact ⟨held, rfl⟩
    | none => exact ⟨value, rfl⟩
  installed := hinstalled

theorem Settled.fillDefaults_eq {d : Definition} (h : p.Settled d) : p.fillDefaults d = d := by
  have hmetadata : (p.fillDefaults d).metadata = d.metadata := by
    refine KeyedMap.ext_get? fun key => ?_
    rw [get?_fillDefaults]
    cases hvalue : p.defaults.get? key with
    | none => exact Option.or_none
    | some value =>
      obtain ⟨held, hheld⟩ := h.filled key value hvalue
      rw [hheld]
      rfl
  calc p.fillDefaults d = { d with metadata := (p.fillDefaults d).metadata } := rfl
    _ = d := by rw [hmetadata]

theorem Settled.expansion_eq {d : Definition} (h : p.Settled d) (id : String) :
    p.expansion id d = .ok [d] :=
  expansion_plain h.deriver

theorem Settled.transfer {d : Definition} (h : p.Settled d) (hrules : p.SameRules q) :
    q.Settled d where
  deriver := h.deriver
  filled := by
    rw [hrules.defaults]
    exact h.filled
  installed := (hrules.installed d).trans h.installed

theorem keyedWith_settled_transfer {all : DefinitionMap} (hall : all.KeyedWith p.Settled)
    (hrules : p.SameRules q) : all.KeyedWith q.Settled :=
  fun id d hget => (hall id d hget).imp_right fun h => h.transfer hrules

/-! What processing gives is settled, whatever it was given. -/

theorem deriver_of_mem_expansion {id : String} {base : Definition} {new : List Definition}
    (h : p.expansion id base = .ok new) : ∀ d ∈ new, d.deriver = none := by
  rcases p.expansion_cases id base with hplain | ⟨derivatives, hderives⟩ | ⟨e, he⟩
  · cases h.symm.trans (expansion_plain hplain)
    exact List.forall_mem_singleton.2 hplain
  · cases h.symm.trans (expansion_derives hderives)
    exact List.forall_mem_map.2 fun e _ => rfl
  · cases h.symm.trans (expansion_cannotExpand he)

theorem keyedWith_foldl_insert {P : Definition → Prop} {new : List Definition}
    (hnew : ∀ d ∈ new, P d) {all : DefinitionMap} (hall : all.KeyedWith P) :
    DefinitionMap.KeyedWith P (new.foldl (fun all d => all.insert d.id d) all) := by
  induction new generalizing all with
  | nil => exact hall
  | cons first rest ih =>
    obtain ⟨hfirst, hrest⟩ := List.forall_mem_cons.1 hnew
    refine ih hrest fun id d hget => ?_
    rw [KeyedMap.get?_insert] at hget
    split at hget
    · next hid =>
      cases hget
      exact ⟨hid, hfirst⟩
    · exact hall id d hget

/-- Expansion puts each definition under its own id, also those that it was given under another. -/
theorem keyedWith_expandedFrom {found : List (String × Definition)} {all expanded : DefinitionMap}
    (hall : all.KeyedWith fun d => d.deriver = none)
    (h : p.expandedFrom found all = .ok expanded) :
    expanded.KeyedWith fun d => d.deriver = none := by
  induction found generalizing all with
  | nil =>
    cases h
    exact hall
  | cons f rest ih =>
    cases hnew : p.expansion f.1 f.2 with
    | error e =>
      rw [expandedFrom_cons_of_error hnew] at h
      cases h
    | ok new =>
      rw [expandedFrom_cons_of_ok hnew] at h
      exact ih (keyedWith_foldl_insert (deriver_of_mem_expansion hnew) hall) h

theorem finished_of_unaltered (h : p.alterations = []) (expanded : DefinitionMap) :
    p.finished expanded =
      (expanded.mapValues fun _ d => p.fillDefaults d).filter fun _ d => p.isInstalled d := by
  unfold finished
  rw [h]
  rfl

theorem settled_of_processed (halter : p.alterations = []) {discovered all : DefinitionMap}
    (h : p.processed discovered = .ok all) : all.KeyedWith p.Settled := by
  obtain ⟨expanded, hexpanded, rfl⟩ := exists_of_processed h
  have hderivers := keyedWith_expandedFrom DirectoryDiscovery.keyedWith_empty hexpanded
  intro id d hget
  rw [finished_of_unaltered halter, KeyedMap.get?_filter, Option.filter_eq_some_iff,
    KeyedMap.get?_mapValues, Option.map_eq_some_iff] at hget
  obtain ⟨⟨before, hbefore, rfl⟩, hinstalled⟩ := hget
  obtain ⟨hid, hderiver⟩ := hderivers id before hbefore
  exact ⟨hid, settled_fillDefaults hderiver hinstalled⟩

/-! Settled definitions stay as they are. -/

theorem expandedFrom_of_settled {found : List (String × Definition)}
    (h : ∀ f ∈ found, f.2.id = f.1 ∧ p.Settled f.2) (all : DefinitionMap) :
    ∃ expanded, p.expandedFrom found all = .ok expanded ∧
      expanded.entries = found.foldl (fun acc f => Keyed.insert f.1 f.2 acc) all.entries := by
  induction found generalizing all with
  | nil => exact ⟨all, rfl, rfl⟩
  | cons f rest ih =>
    obtain ⟨⟨hid, hsettled⟩, hrest⟩ := List.forall_mem_cons.1 h
    obtain ⟨expanded, hexpanded, hentries⟩ := ih hrest (all.insert f.2.id f.2)
    refine ⟨expanded, ?_, ?_⟩
    · rw [expandedFrom_cons_of_ok (hsettled.expansion_eq f.1)]
      exact hexpanded
    · rw [hentries, hid]
      rfl

theorem processed_of_settled (halter : p.alterations = []) {all : DefinitionMap}
    (h : all.KeyedWith p.Settled) : p.processed all = .ok all := by
  have hall : ∀ f ∈ all.entries, f.2.id = f.1 ∧ p.Settled f.2 := fun f hf =>
    h f.1 f.2 (KeyedMap.mem_entries_iff.1 hf)
  obtain ⟨expanded, hexpanded, hentries⟩ := expandedFrom_of_settled hall .empty
  have hsame : expanded = all := by
    refine KeyedMap.ext_get? fun id => congrArg (Keyed.get? id) ?_
    exact hentries.trans (Keyed.ofList_eq_self all.ordered)
  unfold processed
  rw [hexpanded, hsame]
  refine congrArg Except.ok (KeyedMap.ext_get? fun id => ?_)
  rw [finished_of_unaltered halter, KeyedMap.get?_filter, KeyedMap.get?_mapValues]
  cases hget : all.get? id with
  | none => rfl
  | some d =>
    have hsettled := (h id d hget).2
    simp [hsettled.fillDefaults_eq, hsettled.installed]

/-! A second processed source over a first one. -/

variable {source : Discovery σ}

theorem ensures_settled (halter : p.alterations = []) (source : Discovery σ) :
    p.Ensures source (fun _ => True) fun all => all.KeyedWith p.Settled where
  after _ _ := trivial
  good _ _ _ h := by
    obtain ⟨discovered, -, hprocessed⟩ := exists_of_processedAt h
    exact settled_of_processed halter hprocessed

theorem between_settled (halter : p.alterations = []) (source : Discovery σ) (inner : σ)
    (calls : List (Call σ)) :
    Between (fun _ => True) (fun all => all.KeyedWith p.Settled)
      (p.afterCalls source { inner } calls) :=
  (ensures_settled halter source).afterCalls (fun _ _ _ _ => trivial)
    ⟨trivial, fun _ hall => by cases hall⟩

/-- The second source remembers nothing, or what the first one remembers. -/
def InPace (p q : Processing) (s : Memoized σ) (memo : Option DefinitionMap) : Prop :=
  memo = none ∨ (q.memoize = p.memoize ∧ memo = s.memo)

theorem processedAt_first (source : Discovery σ) (hp : p.alterations = [])
    (hq : q.alterations = []) (h : p.SameRules q) {s : Memoized σ}
    (hs : Between (fun _ => True) (fun all => all.KeyedWith p.Settled) s) :
    q.processedAt (p.discovery source) s = (p.definitions source).result s := by
  have hgood := ((ensures_settled hp source).definitions hs).2
  change ((p.definitions source).result s).bind q.processed = _
  cases hresult : (p.definitions source).result s with
  | error e => rfl
  | ok all => exact processed_of_settled hq (keyedWith_settled_transfer (hgood all hresult) h)

theorem outcome_second (source : Discovery σ) (hp : p.alterations = [])
    (hq : q.alterations = []) (h : p.SameRules q) {s : Memoized σ}
    (hs : Between (fun _ => True) (fun all => all.KeyedWith p.Settled) s)
    {memo : Option DefinitionMap} (hmemo : InPace p q s memo) :
    (q.definitions (p.discovery source)).outcome ⟨s, memo⟩ =
      ((p.definitions source).result s,
        ⟨(p.definitions source).after s,
          if q.memoize then ((p.definitions source).result s).toOption else memo⟩) := by
  by_cases hheld : ∃ all, q.memoize = true ∧ memo = some all
  · obtain ⟨all, hmemoize, rfl⟩ := hheld
    obtain ⟨hsame, hfirst⟩ := hmemo.resolve_left (by simp)
    have houtcome := outcome_definitions_of_memo p source (hsame ▸ hmemoize) hfirst.symm
    rw [outcome_definitions_of_memo q (p.discovery source) hmemoize rfl]
    unfold Action.result Action.after
    rw [houtcome, hmemoize]
    rfl
  · have hfresh : q.memoize = true → memo = none := fun hmemoize =>
      Option.eq_none_iff_forall_ne_some.2 fun all hall => hheld ⟨all, hmemoize, hall⟩
    have hanswer := processedAt_first source hp hq h hs
    refine Prod.ext ?_ ?_
    · exact (result_definitions_of_fresh (s := ⟨s, memo⟩) hfresh).trans hanswer
    · refine (after_definitions_of_fresh (s := ⟨s, memo⟩) hfresh).trans ?_
      rw [hanswer]
      rfl

theorem memo_after_definitions (p : Processing) (source : Discovery σ) (s : Memoized σ) :
    ((p.definitions source).after s).memo =
      if p.memoize then ((p.definitions source).result s).toOption else s.memo := by
  by_cases hheld : ∃ all, p.memoize = true ∧ s.memo = some all
  · obtain ⟨all, hmemoize, hall⟩ := hheld
    have houtcome := outcome_definitions_of_memo p source hmemoize hall
    unfold Action.result Action.after
    rw [houtcome, hmemoize, hall]
    rfl
  · have hfresh : p.memoize = true → s.memo = none := fun hmemoize =>
      Option.eq_none_iff_forall_ne_some.2 fun all hall => hheld ⟨all, hmemoize, hall⟩
    rw [after_definitions_of_fresh hfresh, result_definitions_of_fresh hfresh]

end Processing

/-- The call as it is made where there are two processed sources, one over the other: the lookups
go to the upper one, and both forget. -/
def Call.onBoth {σ : Type} : Call σ → List (Call (Memoized σ))
  | .change alter => [.change fun s => { s with inner := alter s.inner }]
  | .definitions => [.definitions]
  | .definition id strict => [.definition id strict]
  | .has id => [.has id]
  | .clear => [.change Memoized.clear.after, .clear]

namespace Processing

variable {σ : Type} {p q : Processing} {source : Discovery σ}

theorem afterCalls_onBoth (hp : p.alterations = []) (hq : q.alterations = []) (h : p.SameRules q)
    (hmemoize : q.memoize = p.memoize) (inner : σ) (calls : List (Call σ)) :
    q.afterCalls (p.discovery source) { inner := { inner } } (calls.flatMap Call.onBoth) =
      ⟨p.afterCalls source { inner } calls, (p.afterCalls source { inner } calls).memo⟩ := by
  induction calls using List.reverseRecOn with
  | nil => rfl
  | append_singleton calls call ih =>
    have hs := between_settled hp source inner calls
    rw [List.flatMap_append, afterCalls_append, ih, afterCalls_concat]
    generalize p.afterCalls source { inner } calls = s at hs ⊢
    have hlookup : ∀ lookup : Call (Memoized σ), lookup.IsLookup →
        q.perform (p.discovery source) ⟨s, s.memo⟩ lookup =
          ⟨(p.definitions source).after s, ((p.definitions source).after s).memo⟩ := by
      intro lookup hlookup
      have houtcome := outcome_second source hp hq h hs (.inr ⟨hmemoize, rfl⟩)
      rw [perform_lookup hlookup, memo_after_definitions, ← hmemoize]
      exact congrArg Prod.snd houtcome
    cases call with
    | change alter => rfl
    | clear => rfl
    | definitions => exact hlookup .definitions trivial
    | definition id strict =>
      have hlookupFirst : (Call.definition id strict : Call σ).IsLookup := trivial
      rw [perform_lookup hlookupFirst]
      exact hlookup (.definition id strict) trivial
    | has id =>
      have hlookupFirst : (Call.has id : Call σ).IsLookup := trivial
      rw [perform_lookup hlookupFirst]
      exact hlookup (.has id) trivial

/-- A second processed source over a first one, with the same derivers, defaults and installed
providers and both without alterations, answers like the first one alone: if it is put there after
any run of the first, and, where both remember their answers or neither does, if it is there
throughout the run. For what the first gives stands under its own id and is left as it is: nothing of
it is expanded, no default is missing, and no provider dropped. -/
theorem processed_twice_as_once (p q : Processing) (hp : p.alterations = []) (hq : q.alterations = [])
    (h : p.SameRules q) (source : Discovery σ) (inner : σ) (calls : List (Call σ)) :
    let first := p.discovery source
    let second := q.discovery first
    let now := p.afterCalls source { inner } calls
    let answer := first.definitions.result now
    (second.AnswersFrom { inner := now } answer ∧
      (second.definitions.after { inner := now }).inner = first.definitions.after now) ∧
    (q.memoize = p.memoize → second.AnswersFrom
      (q.afterCalls first { inner := { inner } } (calls.flatMap Call.onBoth)) answer) ∧
    (∀ all, answer = .ok all → all.KeyedWith fun d => d.deriver = none ∧
      (∀ id, q.expansion id d = .ok [d]) ∧ q.fillDefaults d = d ∧ q.isInstalled d = true) ∧
    ∀ d key, (q.fillDefaults d).metadata.get? key = (d.metadata.get? key).or (q.defaults.get? key) := by
  intro first second now answer
  have hnow : Between (fun _ => True) (fun all => all.KeyedWith p.Settled) now :=
    between_settled hp source inner calls
  refine ⟨⟨?_, ?_⟩, fun hmemoize => ?_, fun all hall id d hget => ?_, get?_fillDefaults q⟩
  · exact answersFrom_of_result (congrArg Prod.fst (outcome_second source hp hq h hnow (.inl rfl)))
  · exact congrArg (fun o => o.2.inner) (outcome_second source hp hq h hnow (.inl rfl))
  · rw [afterCalls_onBoth hp hq h hmemoize]
    exact answersFrom_of_result
      (congrArg Prod.fst (outcome_second source hp hq h hnow (.inr ⟨hmemoize, rfl⟩)))
  · obtain ⟨hid, hsettled⟩ := ((ensures_settled hp source).definitions hnow).2 all hall id d hget
    have hagain := hsettled.transfer h
    exact ⟨hid, hagain.deriver, hagain.expansion_eq, hagain.fillDefaults_eq, hagain.installed⟩

/-- Derivers, a default and a provider, and nothing is remembered. -/
def sampleRules : Processing where
  derivers := sampleDerivers.derivers
  defaults := KeyedMap.empty.insert "weight" (.int 0)
  installed := some ["core"]
  memoize := false

/-- The definition `a` stands under another id, and has a derivative. -/
def strayBase : DefinitionMap :=
  KeyedMap.empty.insert "stray" { id := "a", provider := "core", deriver := some "menus" }

/-- The derivative is made once, below the id under which its base stands. -/
theorem strayBase_processed_twice :
    sampleRules.alterations = [] ∧ sampleRules.SameRules { sampleRules with memoize := true } ∧
      ∃ all, (({ sampleRules with memoize := true }.discovery
          (sampleRules.discovery Discovery.static)).definitions).result
            { inner := { inner := strayBase } } = .ok all ∧
        all.keys = ["stray:b:c"] ∧ (all.get? "stray:b:c").map Definition.provider = some "core" := by
  have hrules : sampleRules.SameRules { sampleRules with memoize := true } := ⟨rfl, rfl, fun _ => rfl⟩
  obtain ⟨⟨⟨hanswer, -⟩, -⟩, -⟩ := processed_twice_as_once sampleRules
    { sampleRules with memoize := true } rfl rfl hrules Discovery.static strayBase []
  refine ⟨rfl, hrules, _, hanswer.trans rfl, ?_, ?_⟩
  · rfl
  · rfl

end Processing

end PluginHost
