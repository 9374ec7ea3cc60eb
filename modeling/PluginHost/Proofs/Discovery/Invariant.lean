import PluginHost.Proofs.Cache.Hits
import PluginHost.Proofs.Discovery.Expansion
import PluginHost.Proofs.Discovery.Memoization

/-!
Properties that every definition of a run has. A definition may be answered long after its file was
read, from the store or from the memo. A property of the definition alone, which it had when it was
read, it has then, too: all that is kept has the property between any two calls.
-/
namespace PluginHost

def DefinitionMap.KeyedWith (P : Definition → Prop) (all : DefinitionMap) : Prop :=
  ∀ id d, all.get? id = some d → d.id = id ∧ P d

theorem DefinitionMap.KeyedWith.keyedById {P : Definition → Prop} {all : DefinitionMap}
    (h : all.KeyedWith P) : all.KeyedById :=
  fun id d hget => (h id d hget).1

def CacheStore.Keeps (P : Definition → Prop) (store : CacheStore) : Prop :=
  ∀ key modified d, store.get? key = some { modified, entry := .definition d } → P d

theorem CacheStore.Keeps.insert {P : Definition → Prop} {store : CacheStore}
    (h : CacheStore.Keeps P store) {key : String} {modified : Nat} {entry : CacheEntry}
    (hentry : ∀ d, entry = .definition d → P d) :
    CacheStore.Keeps P (KeyedMap.insert store key { modified, entry }) := by
  intro k time d hget
  rw [KeyedMap.get?_insert] at hget
  split at hget
  · cases hget
    exact hentry d rfl
  · exact h k time d hget

namespace DirectoryDiscovery

/-- Every definition that a file can hold when it is scanned has the property. -/
def Reads (d : DirectoryDiscovery) (P : Definition → Prop) : Prop :=
  ∀ files, ∀ f ∈ d.scanned files, ∀ definition, d.Holds files f (.definition definition) →
    P definition

variable {d : DirectoryDiscovery} {P : Definition → Prop} {suffix : String} {w : Workspace}

theorem keyedWith_addTo {all : DefinitionMap} (hall : all.KeyedWith P) {entry : CacheEntry}
    (hentry : ∀ definition, entry = .definition definition → P definition) :
    (entry.addTo all).KeyedWith P := by
  cases entry with
  | empty => exact hall
  | definition held =>
    intro id definition hget
    rw [get?_addTo_definition] at hget
    split at hget
    · next hid =>
      cases hget
      exact ⟨hid, hentry held rfl⟩
    · exact hall id definition hget

theorem keyedWith_collectEntries {entry : ScannedFile → Except PluginError CacheEntry}
    {all result : DefinitionMap} {found : ScanResult} (hall : all.KeyedWith P)
    (hentry : ∀ f ∈ found, ∀ definition, entry f = .ok (.definition definition) → P definition)
    (h : collectEntries entry all found = .ok result) : result.KeyedWith P := by
  induction found generalizing all with
  | nil =>
    cases h
    exact hall
  | cons f rest ih =>
    obtain ⟨hfirst, hrest⟩ := List.forall_mem_cons.1 hentry
    cases hf : entry f with
    | error e =>
      rw [collectEntries_cons_of_error hf] at h
      cases h
    | ok e =>
      rw [collectEntries_cons_of_ok hf] at h
      refine ih (keyedWith_addTo hall fun definition heq => hfirst definition ?_) hrest h
      rw [hf, heq]

theorem keyedWith_empty : DefinitionMap.KeyedWith P .empty := fun _ _ hget => by cases hget

theorem keyedWith_cached (hcache : d.cache = .file suffix) (hreads : d.Reads P)
    (hstore : w.store.Keeps P) :
    (d.definitions.after w).store.Keeps P ∧
      ∀ all, d.definitions.result w = .ok all → all.KeyedWith P := by
  have hshrinks := d.lookedUp_shrinks suffix w
  have hkept : (d.lookedUp suffix w).store.Keeps P := fun key modified definition hget =>
    hstore key modified definition (hshrinks.2 key _ hget)
  have hkeep : ∀ f ∈ d.scanned w.files, ∀ store entry modified,
      fittingHit (d.hits suffix w) f = none → d.Holds w.files f entry →
        w.files.modified? f.path = some modified → CacheStore.Keeps P store →
          CacheStore.Keeps P (KeyedMap.insert store
            (DefinitionCache.keyOf suffix w.files f.path) { modified, entry }) :=
    fun f hf store entry modified _ hholds _ hkeeps =>
      hkeeps.insert fun definition heq => hreads w.files f hf definition (heq ▸ hholds)
  obtain ⟨t, hvisit, -, ht⟩ := outcome_visit_cached hcache (d.hits suffix w) (CacheStore.Keeps P)
    hkeep .empty hshrinks.1 hkept
  rw [← outcome_definitions_cached hcache] at hvisit
  have hafter : d.definitions.after w = t := congrArg Prod.snd hvisit
  rw [hafter]
  refine ⟨ht, fun all hall => ?_⟩
  have hcollect := (congrArg Prod.fst hvisit).symm.trans hall
  refine keyedWith_collectEntries keyedWith_empty (fun f hf definition hentry => ?_) hcollect
  unfold entryGiven at hentry
  split at hentry
  · next entry hhit =>
    cases hentry
    obtain ⟨hvalid, -⟩ := fitting_eq_some_iff.1 (fitting_of_fittingHit hf hhit)
    obtain ⟨⟨modified, entry⟩, hget, -, rfl⟩ := DefinitionCache.valid?_eq_some_iff.1 hvalid
    exact hstore _ modified definition hget
  · exact hreads w.files f hf definition (holds_iff_readEntry.2 hentry)

theorem keyedWith_uncached (hreads : d.Reads P) {all : DefinitionMap}
    (h : d.uncached.definitions.result w = .ok all) : all.KeyedWith P := by
  have hgather : d.gather w.files .empty (d.scanned w.files) = .ok all :=
    (congrArg Prod.fst (outcome_definitions_uncached d w)).symm.trans h
  exact keyedWith_collectEntries keyedWith_empty (fun f hf definition hentry =>
    hreads w.files f hf definition (holds_iff_readEntry.2 hentry)) hgather

theorem keyedWith_definitions {enabled : Bool} (hcache : d.cache = .ofSettings enabled suffix)
    (hreads : d.Reads P) (hstore : w.store.Keeps P) :
    (d.definitions.after w).store.Keeps P ∧
      ∀ all, d.definitions.result w = .ok all → all.KeyedWith P := by
  cases enabled with
  | true => exact keyedWith_cached hcache hreads hstore
  | false =>
    have huncached : d.uncached = d := by
      unfold uncached
      rw [show DefinitionCache.null = d.cache from hcache.symm]
    have hafter : d.definitions.after w = w := by
      rw [← huncached]
      exact congrArg Prod.snd (outcome_definitions_uncached d w)
    rw [hafter]
    refine ⟨hstore, fun all hall => keyedWith_uncached (d := d) (w := w) hreads ?_⟩
    rw [huncached, hall]

end DirectoryDiscovery

namespace Processing

variable {σ : Type} {p : Processing} {source : Discovery σ} {Inv : σ → Prop}
  {Good : DefinitionMap → Prop} {s : Memoized σ}

theorem exists_of_processedAt {inner : σ} {all : DefinitionMap}
    (h : p.processedAt source inner = .ok all) :
    ∃ discovered, source.definitions.result inner = .ok discovered ∧
      p.processed discovered = .ok all := by
  unfold processedAt at h
  cases hdiscovered : source.definitions.result inner with
  | ok discovered =>
    rw [hdiscovered] at h
    exact ⟨discovered, rfl, h⟩
  | error e =>
    rw [hdiscovered] at h
    cases h

theorem exists_of_processed {discovered all : DefinitionMap} (h : p.processed discovered = .ok all) :
    ∃ expanded, p.expandedFrom discovered.entries .empty = .ok expanded ∧
      p.finished expanded = all := by
  unfold processed at h
  cases hexpanded : p.expandedFrom discovered.entries .empty with
  | ok expanded =>
    rw [hexpanded] at h
    exact ⟨expanded, rfl, Except.ok.inj h⟩
  | error e =>
    rw [hexpanded] at h
    cases h

/-- A property of the source's state that stays when the source is asked, and what is good about
the definitions that processing makes of an answer from such a state. -/
structure Ensures (p : Processing) (source : Discovery σ) (Inv : σ → Prop)
    (Good : DefinitionMap → Prop) : Prop where
  after : ∀ inner, Inv inner → Inv (source.definitions.after inner)
  good : ∀ inner all, Inv inner → p.processedAt source inner = .ok all → Good all

structure Between (Inv : σ → Prop) (Good : DefinitionMap → Prop) (s : Memoized σ) : Prop where
  inner : Inv s.inner
  memo : ∀ all, s.memo = some all → Good all

theorem Ensures.definitions (h : p.Ensures source Inv Good) (hs : Between Inv Good s) :
    Between Inv Good ((p.definitions source).after s) ∧
      ∀ all, (p.definitions source).result s = .ok all → Good all := by
  by_cases hmemo : ∃ all, p.memoize = true ∧ s.memo = some all
  · obtain ⟨all, hp, hall⟩ := hmemo
    have houtcome := outcome_definitions_of_memo p source hp hall
    have hafter : (p.definitions source).after s = s := congrArg Prod.snd houtcome
    rw [hafter]
    refine ⟨hs, fun answer hanswer => ?_⟩
    cases (congrArg Prod.fst houtcome).symm.trans hanswer
    exact hs.memo all hall
  · have hfresh : p.memoize = true → s.memo = none := fun hp =>
      Option.eq_none_iff_forall_ne_some.2 fun all hall => hmemo ⟨all, hp, hall⟩
    rw [after_definitions_of_fresh hfresh, result_definitions_of_fresh hfresh]
    refine ⟨⟨h.after s.inner hs.inner, fun all hall => ?_⟩, fun all => h.good s.inner all hs.inner⟩
    dsimp only at hall
    split at hall
    · refine h.good s.inner all hs.inner ?_
      cases hprocessed : p.processedAt source s.inner with
      | ok answer =>
        rw [hprocessed] at hall
        exact congrArg Except.ok (Option.some.inj hall)
      | error e =>
        rw [hprocessed] at hall
        cases hall
    · exact hs.memo all hall

theorem Ensures.perform (h : p.Ensures source Inv Good) {call : Call σ}
    (hchange : ∀ alter, call = .change alter → ∀ inner, Inv inner → Inv (alter inner))
    (hs : Between Inv Good s) : Between Inv Good (p.perform source s call) := by
  rcases call.isLookup_or with hlookup | ⟨alter, rfl⟩ | rfl
  · rw [perform_lookup hlookup]
    exact (h.definitions hs).1
  · exact ⟨hchange alter rfl s.inner hs.inner, hs.memo⟩
  · exact ⟨hs.inner, fun all hall => by cases hall⟩

theorem Ensures.afterCalls (h : p.Ensures source Inv Good) {calls : List (Call σ)}
    (hchange : ∀ alter, .change alter ∈ calls → ∀ inner, Inv inner → Inv (alter inner))
    (hs : Between Inv Good s) : Between Inv Good (p.afterCalls source s calls) := by
  induction calls generalizing s with
  | nil => exact hs
  | cons call rest ih =>
    refine ih (fun alter hmem => hchange alter (List.mem_cons_of_mem _ hmem)) (h.perform ?_ hs)
    rintro alter rfl
    exact hchange alter List.mem_cons_self

theorem exists_get?_of_result_definition {id : String} {strict : Bool} {d : Definition}
    (h : ((p.discovery source).definition id strict).result s = .ok (some d)) :
    ∃ all, (p.definitions source).result s = .ok all ∧ all.get? id = some d := by
  have hanswers : (p.discovery source).AnswersFrom s ((p.definitions source).result s) :=
    answersFrom_of_result rfl
  rw [hanswers.2.1 id strict] at h
  cases hall : (p.definitions source).result s with
  | error e =>
    rw [hall] at h
    cases h
  | ok all =>
    rw [hall] at h
    refine ⟨all, rfl, ?_⟩
    change found (all.get? id) id strict = _ at h
    unfold found at h
    split at h
    · next held hget =>
      cases h
      exact hget
    · split at h <;> cases h

end Processing

end PluginHost
