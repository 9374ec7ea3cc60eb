import PluginHost.Keyed

/-!
What the operations on maps do to `get?`, and that a map is known by its `get?`.
-/
namespace PluginHost

namespace Keyed

variable {κ α β : Type} [DecidableEq κ]

theorem get?_eq_none_iff {key : κ} {entries : List (κ × α)} :
    get? key entries = none ↔ key ∉ entries.map Prod.fst := by
  induction entries with
  | nil => simp [get?]
  | cons e rest ih =>
    obtain ⟨k, v⟩ := e
    by_cases h : k = key
    · simp [get?, h]
    · simp [get?, h, ih, Ne.symm h]

theorem mem_keys_of_get? {key : κ} {value : α} {entries : List (κ × α)}
    (h : get? key entries = some value) : key ∈ entries.map Prod.fst :=
  Classical.byContradiction fun hm => by simp [get?_eq_none_iff.2 hm] at h

theorem mem_of_get? {key : κ} {value : α} {entries : List (κ × α)}
    (h : get? key entries = some value) : (key, value) ∈ entries := by
  induction entries with
  | nil => cases h
  | cons e rest ih =>
    by_cases hkey : e.1 = key
    · have hvalue : e.2 = value := by simpa [get?, hkey] using h
      exact List.mem_cons.2 (.inl (Prod.ext hkey.symm hvalue.symm))
    · exact List.mem_cons_of_mem _ (ih (by simpa [get?, hkey] using h))

theorem get?_eq_some_of_nodup {entries : List (κ × α)} (h : (entries.map Prod.fst).Nodup)
    {e : κ × α} (he : e ∈ entries) : get? e.1 entries = some e.2 := by
  induction entries with
  | nil => cases he
  | cons head rest ih =>
    obtain ⟨hhead, hrest⟩ := List.nodup_cons.1 h
    rcases List.mem_cons.1 he with rfl | he
    · simp [get?]
    · have hne : head.1 ≠ e.1 := fun heq => hhead (heq ▸ List.mem_map_of_mem he)
      simpa [get?, hne] using ih hrest he

theorem get?_mapValues {f : κ → α → β} {k : κ} {entries : List (κ × α)} :
    get? k (entries.map fun e => (e.1, f e.1 e.2)) = (get? k entries).map (f k) := by
  induction entries with
  | nil => rfl
  | cons e rest ih =>
    by_cases h : e.1 = k
    · subst h; simp [get?]
    · simp [get?, h, ih]

variable [LT κ]

theorem get?_tail_eq_none {e : κ × α} {rest : List (κ × α)} (h : Ordered (e :: rest))
    {key : κ} (hkey : ¬e.1 < key) : get? key rest = none :=
  get?_eq_none_iff.2 fun hm => hkey ((List.pairwise_cons.1 h).1 key hm)

section

variable [DecidableLT κ]

theorem get?_insert {key k : κ} {value : α} {entries : List (κ × α)} :
    get? k (insert key value entries) = if key = k then some value else get? k entries := by
  induction entries with
  | nil => simp [insert, get?]
  | cons e rest ih =>
    obtain ⟨k', v⟩ := e
    simp only [insert]
    split
    · next heq => subst heq; by_cases h : k' = k <;> simp [get?, h]
    · next hne =>
      split
      · simp [get?]
      · simp only [get?, ih]
        by_cases h : k' = k
        · subst h; simp [Ne.symm hne]
        · simp [h]

theorem mem_of_mem_insert {e : κ × α} {key : κ} {value : α}
    {entries : List (κ × α)} (h : e ∈ insert key value entries) :
    e = (key, value) ∨ e ∈ entries := by
  induction entries with
  | nil => simpa [insert] using h
  | cons head rest ih =>
    simp only [insert] at h
    split at h
    · exact (List.mem_cons.1 h).imp_right (List.mem_cons_of_mem _)
    · split at h
      · exact List.mem_cons.1 h
      · rcases List.mem_cons.1 h with rfl | h
        · exact .inr List.mem_cons_self
        · exact (ih h).imp_right (List.mem_cons_of_mem _)

theorem exists_insert_eq_append {key : κ} {value : α} {entries : List (κ × α)}
    (h : key ∉ entries.map Prod.fst) : ∃ before after, entries = before ++ after ∧
      insert key value entries = before ++ (key, value) :: after := by
  induction entries with
  | nil => exact ⟨[], [], rfl, rfl⟩
  | cons e rest ih =>
    obtain ⟨hhead, hrest⟩ := not_or.1 fun hmem => h (List.mem_cons.2 hmem)
    obtain ⟨before, after, hentries, hinsert⟩ := ih hrest
    rw [insert, if_neg (Ne.symm hhead)]
    split
    · exact ⟨[], e :: rest, rfl, rfl⟩
    · exact ⟨e :: before, after, by rw [hentries]; rfl, by rw [hinsert]; rfl⟩

/-- Of two lists of entries that are put in one after the other, the later one counts first. -/
theorem get?_foldl_insert_of_nodup {key : κ} {entries acc : List (κ × α)}
    (h : (entries.map Prod.fst).Nodup) :
    get? key (entries.foldl (fun acc e => insert e.1 e.2 acc) acc) =
      (get? key entries).or (get? key acc) := by
  induction entries generalizing acc with
  | nil => rfl
  | cons e rest ih =>
    obtain ⟨hhead, hrest⟩ := List.nodup_cons.1 h
    rw [List.foldl_cons, ih hrest, get?_insert]
    by_cases hkey : e.1 = key
    · subst hkey
      simp [get?, get?_eq_none_iff.2 hhead]
    · simp [get?, hkey]

theorem get?_ofList_of_nodup {key : κ} {entries : List (κ × α)}
    (h : (entries.map Prod.fst).Nodup) : get? key (ofList entries) = get? key entries :=
  (get?_foldl_insert_of_nodup h).trans (Option.or_none)

end

variable [LE κ] [Std.LawfulOrderLT κ]

theorem get?_eq_none_of_ordered {e : κ × α} {rest : List (κ × α)}
    (h : Ordered (e :: rest)) : get? e.1 rest = none :=
  get?_tail_eq_none h Std.lt_irrefl

theorem mem_iff_get? {entries : List (κ × α)} (h : Ordered entries) {key : κ} {value : α} :
    (key, value) ∈ entries ↔ get? key entries = some value := by
  induction entries with
  | nil => simp [get?]
  | cons e rest ih =>
    have hrest : Ordered rest := (List.pairwise_cons.1 h).2
    have hnone := get?_eq_none_of_ordered h
    obtain ⟨k, v⟩ := e
    by_cases hk : k = key
    · subst hk
      have : (k, value) ∉ rest := fun hm => by simp [(ih hrest).1 hm] at hnone
      simp [get?, this, eq_comm]
    · simp [get?, hk, ih hrest, Ne.symm hk]

theorem get?_erase {key k : κ} {entries : List (κ × α)} (h : Ordered entries) :
    get? k (erase key entries) = if key = k then none else get? k entries := by
  induction entries with
  | nil => simp [erase, get?]
  | cons e rest ih =>
    have hnone := get?_eq_none_of_ordered h
    have hrest : Ordered rest := (List.pairwise_cons.1 h).2
    obtain ⟨k', v⟩ := e
    simp only [erase]
    split
    · next heq =>
      subst heq
      by_cases hk : k' = k
      · subst hk; simpa using hnone
      · simp [get?, hk]
    · next hne =>
      simp only [get?, ih hrest]
      by_cases hk : k' = k
      · subst hk; simp [Ne.symm hne]
      · simp [hk]

theorem get?_filter {p : κ × α → Bool} {k : κ} {entries : List (κ × α)}
    (h : Ordered entries) :
    get? k (entries.filter p) = (get? k entries).filter fun v => p (k, v) := by
  induction entries with
  | nil => rfl
  | cons e rest ih =>
    have hnone := get?_eq_none_of_ordered h
    have hrest : Ordered rest := (List.pairwise_cons.1 h).2
    obtain ⟨k', v⟩ := e
    by_cases hk : k' = k
    · subst hk
      by_cases hp : p (k', v)
      · simp [get?, hp, Option.filter]
      · simp [get?, hp, ih hrest, hnone, Option.filter]
    · by_cases hp : p (k', v) <;> simp [get?, hk, hp, ih hrest]

omit [DecidableEq κ] in
theorem nodup_of_ordered {entries : List (κ × α)} (h : Ordered entries) :
    (entries.map Prod.fst).Nodup := by
  have hne : ∀ {a b : κ}, a < b → a ≠ b := fun hlt heq => Std.lt_irrefl (heq ▸ hlt)
  exact List.Pairwise.imp hne h

theorem get?_foldl_insert [DecidableLT κ] {key : κ} {entries acc : List (κ × α)}
    (h : Ordered entries) :
    get? key (entries.foldl (fun acc e => insert e.1 e.2 acc) acc) =
      (get? key entries).or (get? key acc) :=
  get?_foldl_insert_of_nodup (nodup_of_ordered h)

variable [Std.IsLinearOrder κ]

theorem eq_of_get? {xs ys : List (κ × α)} (hx : Ordered xs) (hy : Ordered ys)
    (h : ∀ k, get? k xs = get? k ys) : xs = ys := by
  induction xs generalizing ys with
  | nil =>
    cases ys with
    | nil => rfl
    | cons e rest => simpa [get?] using h e.1
  | cons a xs ih =>
    cases ys with
    | nil => simpa [get?] using h a.1
    | cons b ys =>
      have hxs := List.pairwise_cons.1 hx
      have hys := List.pairwise_cons.1 hy
      have hab : a.1 = b.1 := by
        have ha : get? a.1 (b :: ys) = some a.2 := by rw [← h]; simp [get?]
        have hb : get? b.1 (a :: xs) = some b.2 := by rw [h]; simp [get?]
        rcases List.mem_cons.1 (mem_keys_of_get? ha) with ha | ha
        · exact ha
        · rcases List.mem_cons.1 (mem_keys_of_get? hb) with hb | hb
          · exact hb.symm
          · exact absurd (Std.lt_trans (hys.1 _ ha) (hxs.1 _ hb)) Std.lt_irrefl
      have hv : a.2 = b.2 := by simpa [get?, hab] using h a.1
      have hrest : xs = ys := by
        refine ih hxs.2 hys.2 fun k => ?_
        by_cases hk : a.1 = k
        · subst hk
          rw [get?_eq_none_of_ordered hx, hab, get?_eq_none_of_ordered hy]
        · simpa [get?, hk, hab ▸ hk] using h k
      rw [hrest, Prod.ext hab hv]

variable [DecidableLT κ]

theorem ofList_eq_self {entries : List (κ × α)} (h : Ordered entries) :
    ofList entries = entries := by
  exact eq_of_get? (ordered_ofList entries) h fun k => get?_ofList_of_nodup (nodup_of_ordered h)

theorem insert_insert {key : κ} {old new : α} {entries : List (κ × α)}
    (h : Ordered entries) : insert key new (insert key old entries) = insert key new entries := by
  refine eq_of_get? (ordered_insert (ordered_insert h)) (ordered_insert h) fun k => ?_
  simp only [get?_insert]
  split <;> rfl

theorem insert_erase {key : κ} {value : α} {entries : List (κ × α)}
    (h : Ordered entries) : insert key value (erase key entries) = insert key value entries := by
  refine eq_of_get? (ordered_insert (ordered_erase h)) (ordered_insert h) fun k => ?_
  simp only [get?_insert, get?_erase h]
  split <;> rfl

theorem length_insert {key : κ} {value : α} {entries : List (κ × α)}
    (h : Ordered entries) :
    (insert key value entries).length + (get? key entries).toList.length = entries.length + 1 := by
  induction entries with
  | nil => rfl
  | cons e rest ih =>
    obtain ⟨k, v⟩ := e
    simp only [insert, get?]
    split
    · rfl
    · split
      · next hlt =>
        rw [get?_tail_eq_none h fun hgt => Std.lt_irrefl (Std.lt_trans hlt hgt)]
        rfl
      · have hrest := ih (List.pairwise_cons.1 h).2
        simp only [List.length_cons]
        omega

end Keyed

namespace KeyedMap

variable {α β : Type}

@[simp] theorem get?_empty (k : String) : (empty : KeyedMap α).get? k = none := rfl

@[simp] theorem get?_insert (m : KeyedMap α) (key k : String) (value : α) :
    (m.insert key value).get? k = if key = k then some value else m.get? k :=
  Keyed.get?_insert

@[simp] theorem get?_erase (m : KeyedMap α) (key k : String) :
    (m.erase key).get? k = if key = k then none else m.get? k :=
  Keyed.get?_erase m.ordered

@[simp] theorem get?_mapValues (m : KeyedMap α) (f : String → α → β) (k : String) :
    (m.mapValues f).get? k = (m.get? k).map (f k) :=
  Keyed.get?_mapValues

@[simp] theorem get?_filter (m : KeyedMap α) (p : String → α → Bool) (k : String) :
    (m.filter p).get? k = (m.get? k).filter (p k) :=
  Keyed.get?_filter m.ordered

theorem mem_entries_iff {m : KeyedMap α} {key : String} {value : α} :
    (key, value) ∈ m.entries ↔ m.get? key = some value :=
  Keyed.mem_iff_get? m.ordered

theorem ext_get? {m n : KeyedMap α} (h : ∀ k, m.get? k = n.get? k) : m = n := by
  obtain ⟨xs, hx⟩ := m
  obtain ⟨ys, hy⟩ := n
  obtain rfl : xs = ys := Keyed.eq_of_get? hx hy h
  rfl

theorem size_insert (m : KeyedMap α) (key : String) (value : α) :
    (m.insert key value).size + (m.get? key).toList.length = m.size + 1 :=
  Keyed.length_insert m.ordered

end KeyedMap

end PluginHost
