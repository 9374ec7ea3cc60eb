import PluginHost.Proofs.Cache.Lookup

/-!
Caches over one store. What one of them does is not seen by the other as long as no key belongs to
both; that depends on their suffixes alone, since a suffix is told from what follows it by a colon
that the suffix, too, may contain.
-/
namespace PluginHost.DefinitionCache

inductive CacheCall
  | lookup (path : Path)
  | lookupAll (paths : List Path)
  | keep (path : Path) (modified : Nat) (entry : CacheEntry)
  | forget (path : Path)

inductive CacheAnswer
  | entry (entry : Option CacheEntry)
  | entries (hits : List (Path × CacheEntry))
  | done

namespace CacheCall

def perform (cache : DefinitionCache) : CacheCall → Step Workspace CacheAnswer
  | lookup path => CacheAnswer.entry <$> cache.lookup path
  | lookupAll paths => CacheAnswer.entries <$> cache.lookupAll paths
  | keep path modified entry => (fun _ => CacheAnswer.done) <$> cache.keep path modified entry
  | forget path => (fun _ => CacheAnswer.done) <$> cache.forget path

end CacheCall

/-- Run the operations of two caches over one store, and give the first cache's answers. -/
def answersOfFirst (first second : DefinitionCache) :
    Workspace → List (CacheCall ⊕ CacheCall) → List CacheAnswer
  | _, [] => []
  | w, .inl call :: rest =>
    let answer := (call.perform first).outcome w
    answer.1 :: answersOfFirst first second answer.2 rest
  | w, .inr call :: rest => answersOfFirst first second ((call.perform second).outcome w).2 rest

/-- A cache answers as if the operations of the other one were not in the run. -/
def Unaffected (first second : String) : Prop :=
  ∀ w calls, answersOfFirst (file first) (file second) w calls =
    answersOfFirst (file first) (file second) w (calls.filter Sum.isLeft)

/-- The suffix `longer` starts with `shorter` and a colon, or is `shorter` itself. -/
def Continues (shorter longer : String) : Prop :=
  ∃ rest, longer ++ ":" = shorter ++ ":" ++ rest

def Apart (first second : String) : Prop := ¬Continues first second ∧ ¬Continues second first

theorem Apart.symm {first second : String} (h : Apart first second) : Apart second first :=
  ⟨h.2, h.1⟩

/-! Suffixes that are apart share no key. -/

theorem keyOf_ne_of_apart {first second : String} (h : Apart first second) (files : FileTree)
    (p q : Path) : keyOf first files p ≠ keyOf second files q := by
  intro heq
  have hlist : (first ++ ":").toList ++ (shown files p).toList =
      (second ++ ":").toList ++ (shown files q).toList := by
    rw [← String.toList_append, ← String.toList_append, keyOf_eq_iff.1 heq]
  have continues : ∀ {shorter longer : String} {rest : List Char},
      (longer ++ ":").toList = (shorter ++ ":").toList ++ rest → Continues shorter longer := by
    intro shorter longer rest hrest
    refine ⟨String.ofList rest, String.toList_injective ?_⟩
    rw [hrest, String.toList_append (s := shorter ++ ":"), String.toList_ofList]
  rcases List.append_eq_append_iff.1 hlist with ⟨rest, hrest, -⟩ | ⟨rest, hrest, -⟩
  · exact h.1 (continues hrest)
  · exact h.2 (continues hrest)

/-- Two workspaces with the same files in which a cache finds the same entries. -/
def Agree (suffix : String) (w v : Workspace) : Prop :=
  w.files = v.files ∧
    ∀ path, w.store.get? (keyOf suffix w.files path) = v.store.get? (keyOf suffix v.files path)

namespace Agree

variable {suffix other : String} {w v : Workspace}

theorem refl (suffix : String) (w : Workspace) : Agree suffix w w := ⟨rfl, fun _ => rfl⟩

theorem valid? (h : Agree suffix w v) (path : Path) :
    DefinitionCache.valid? suffix w path = DefinitionCache.valid? suffix v path := by
  unfold DefinitionCache.valid?
  rw [h.2 path, h.1]

theorem dropped (h : Agree suffix w v) (path : Path) :
    Agree suffix (dropped suffix w path) (DefinitionCache.dropped suffix v path) := by
  refine ⟨h.1, fun p => ?_⟩
  have hp := h.2 p
  unfold DefinitionCache.dropped
  rw [KeyedMap.get?_erase, KeyedMap.get?_erase, hp, h.1]

theorem lookup (h : Agree suffix w v) (path : Path) :
    (((file suffix).lookup path).outcome w).1 = (((file suffix).lookup path).outcome v).1 ∧
      Agree suffix (((file suffix).lookup path).outcome w).2
        (((file suffix).lookup path).outcome v).2 := by
  rw [outcome_lookup, outcome_lookup, h.valid? path]
  cases DefinitionCache.valid? suffix v path with
  | some entry => exact ⟨rfl, h⟩
  | none => exact ⟨rfl, h.dropped path⟩

theorem lookupFrom (h : Agree suffix w v) (paths : List Path) (hits : List (Path × CacheEntry)) :
    ((file suffix).lookupFrom paths hits w).1 = ((file suffix).lookupFrom paths hits v).1 ∧
      Agree suffix ((file suffix).lookupFrom paths hits w).2
        ((file suffix).lookupFrom paths hits v).2 := by
  induction paths generalizing hits w v with
  | nil => exact ⟨rfl, h⟩
  | cons path rest ih =>
    unfold DefinitionCache.lookupFrom
    dsimp only
    rw [(h.lookup path).1]
    exact ih (h.lookup path).2 _

theorem perform (h : Agree suffix w v) (call : CacheCall) :
    ((call.perform (file suffix)).outcome w).1 = ((call.perform (file suffix)).outcome v).1 ∧
      Agree suffix ((call.perform (file suffix)).outcome w).2
        ((call.perform (file suffix)).outcome v).2 := by
  cases call with
  | lookup path => exact ⟨congrArg CacheAnswer.entry (h.lookup path).1, (h.lookup path).2⟩
  | lookupAll paths =>
    have hall := h.lookupFrom paths []
    rw [← outcome_lookupAll, ← outcome_lookupAll] at hall
    exact ⟨congrArg CacheAnswer.entries hall.1, hall.2⟩
  | keep path modified entry =>
    refine ⟨rfl, h.1, fun p => ?_⟩
    change (w.store.insert _ _).get? (keyOf suffix w.files p) =
      (v.store.insert _ _).get? (keyOf suffix v.files p)
    have hp := h.2 p
    rw [KeyedMap.get?_insert, KeyedMap.get?_insert, hp, h.1]
  | forget path => exact ⟨rfl, h.dropped path⟩

theorem dropped_other (hapart : Apart suffix other) (h : Agree suffix w v) (path : Path) :
    Agree suffix (DefinitionCache.dropped other w path) v := by
  refine ⟨h.1, fun p => ?_⟩
  have hne := (keyOf_ne_of_apart hapart w.files p path).symm
  change (w.store.erase _).get? (keyOf suffix w.files p) = _
  rw [KeyedMap.get?_erase, if_neg hne, h.2 p]

theorem lookup_other (hapart : Apart suffix other) (h : Agree suffix w v) (path : Path) :
    Agree suffix (((file other).lookup path).outcome w).2 v := by
  rw [outcome_lookup]
  cases DefinitionCache.valid? other w path with
  | some entry => exact h
  | none => exact h.dropped_other hapart path

theorem perform_other (hapart : Apart suffix other) (h : Agree suffix w v) (call : CacheCall) :
    Agree suffix ((call.perform (file other)).outcome w).2 v := by
  cases call with
  | lookup path => exact h.lookup_other hapart path
  | lookupAll paths =>
    change Agree suffix (((file other).lookupAll paths).outcome w).2 v
    rw [outcome_lookupAll]
    apply lookupFrom_induction (fun _ t => Agree suffix t v) _ h
    intro path _ _ t ht
    exact ht.lookup_other hapart path
  | keep path modified entry =>
    refine ⟨h.1, fun p => ?_⟩
    have hne := (keyOf_ne_of_apart hapart w.files p path).symm
    change (w.store.insert _ _).get? (keyOf suffix w.files p) = _
    rw [KeyedMap.get?_insert, if_neg hne, h.2 p]
  | forget path => exact h.dropped_other hapart path

end Agree

theorem answersOfFirst_filter {first second : String} (hapart : Apart first second)
    {calls : List (CacheCall ⊕ CacheCall)} {w v : Workspace} (h : Agree first w v) :
    answersOfFirst (file first) (file second) w calls =
      answersOfFirst (file first) (file second) v (calls.filter Sum.isLeft) := by
  induction calls generalizing w v with
  | nil => rfl
  | cons call rest ih =>
    cases call with
    | inl call =>
      have hcall := h.perform call
      rw [List.filter_cons_of_pos rfl]
      unfold answersOfFirst
      dsimp only
      rw [hcall.1, ih hcall.2]
    | inr call =>
      rw [List.filter_cons_of_neg (by simp)]
      exact ih (h.perform_other hapart call)

/-! Suffixes that are not apart share a key: that of a file and that of a path that leads nowhere. -/

def sharedKeyFiles : FileTree := .single "f" .empty 0

theorem shown_file : shown sharedKeyFiles ⟨"/f"⟩ = "/f" := by decide +kernel

theorem modified_file : sharedKeyFiles.modified? ⟨"/f"⟩ = some 0 := by decide +kernel

/-- A path with a colon leads nowhere in the tree, so that it stands for itself in its key. -/
theorem shown_of_colon {text : String} (h : ':' ∈ text.toList) :
    shown sharedKeyFiles ⟨text⟩ = text := by
  have hbyte : ':'.toUInt8 ∈ (OsText.ofString text).bytes := by
    rw [OsText.bytes_ofString]
    exact List.mem_flatMap.2 ⟨':', h, by decide⟩
  obtain ⟨part, hpart, hcolon⟩ := Text.exists_mem_splitAll hbyte (by decide : _ ≠ Path.slash)
  have hne : ∀ name : OsText, ':'.toUInt8 ∉ name.bytes → ⟨part⟩ ≠ name := by
    rintro name hname rfl
    exact hname hcolon
  have hsegment : ⟨part⟩ ∈ (Path.mk text).segments := List.mem_map.2 ⟨part, hpart, rfl⟩
  rw [shown_of_lost]
  · exact OsText.display_ofString text
  · apply FileTree.resolve_single_eq_none hsegment
    · exact ⟨hne _ (by decide), hne _ (by decide), hne _ (by decide)⟩
    · exact hne _ (by decide)

theorem exists_keyOf_eq {first second : String} (h : Continues second first) :
    ∃ q, keyOf second sharedKeyFiles q = keyOf first sharedKeyFiles ⟨"/f"⟩ := by
  obtain ⟨rest, hrest⟩ := h
  refine ⟨⟨(rest ++ "/f" : String)⟩, ?_⟩
  have hshown : shown sharedKeyFiles ⟨(rest ++ "/f" : String)⟩ = rest ++ "/f" := by
    rcases List.eq_nil_or_concat rest.toList with hnil | ⟨front, last, hlast⟩
    · obtain rfl : rest = "" := String.toList_injective hnil
      exact shown_file
    · have hlist : first.toList ++ [':'] = second.toList ++ ':' :: front ++ [last] := by
        simpa [hlast] using congrArg String.toList hrest
      obtain ⟨-, hcolon⟩ := List.append_inj' hlist rfl
      cases hcolon
      apply shown_of_colon
      simp [hlast]
  rw [keyOf_eq_iff, hshown, shown_file, ← String.append_assoc, hrest]

theorem not_unaffected_of_continues {first second : String} (h : Continues second first) :
    ¬Unaffected first second := by
  intro hsame
  obtain ⟨q, hq⟩ := exists_keyOf_eq h
  -- the first cache keeps an entry, the second forgets it, the first looks for it
  let kept : Workspace := { files := sharedKeyFiles
                            store := KeyedMap.empty.insert (keyOf first sharedKeyFiles ⟨"/f"⟩)
                              { modified := 0, entry := .empty } }
  have hlost : valid? first (dropped second kept q) ⟨"/f"⟩ = none := by
    simp [valid?, dropped, kept, hq]
  have hkept : valid? first kept ⟨"/f"⟩ = some .empty :=
    valid?_eq_some_iff.2 ⟨⟨0, .empty⟩, by simp [kept], modified_file, rfl⟩
  let calls : List (CacheCall ⊕ CacheCall) :=
    [.inl (.keep ⟨"/f"⟩ 0 .empty), .inr (.forget q), .inl (.lookup ⟨"/f"⟩)]
  have hfilter : calls.filter Sum.isLeft =
      [.inl (.keep ⟨"/f"⟩ 0 .empty), .inl (.lookup ⟨"/f"⟩)] := rfl
  have hrun := hsame ⟨sharedKeyFiles, .empty⟩ calls
  rw [hfilter] at hrun
  simp only [calls, answersOfFirst, CacheCall.perform, Step.outcome_map, outcome_keep,
    outcome_forget] at hrun
  rw [outcome_lookup_of_invalid hlost, outcome_lookup_of_valid hkept] at hrun
  cases hrun

/-- Two caches over one store do not see each other's operations, in either direction and in any
run, exactly when neither suffix is the other or goes on like it after a colon. -/
theorem unaffected_iff_apart (first second : String) :
    Unaffected first second ∧ Unaffected second first ↔ Apart first second := by
  constructor
  · rintro ⟨hfirst, hsecond⟩
    exact ⟨fun h => not_unaffected_of_continues h hsecond,
      fun h => not_unaffected_of_continues h hfirst⟩
  · intro hapart
    exact ⟨fun w calls => answersOfFirst_filter hapart (.refl first w),
      fun w calls => answersOfFirst_filter hapart.symm (.refl second w)⟩

/-- Different suffixes alone do not keep caches apart. -/
theorem not_unaffected_nested : "a:b" ≠ "a" ∧ ¬Unaffected "a:b" "a" :=
  ⟨by decide, not_unaffected_of_continues ⟨"b:", by decide⟩⟩

end PluginHost.DefinitionCache
