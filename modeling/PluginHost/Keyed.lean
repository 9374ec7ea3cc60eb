/-!
Association lists in key order, and the maps from texts built from them. Texts are compared by code
point, which is also the order of their UTF-8 bytes. `get?` is the view: the lemmas beside this module say
what each operation does to it, and that two maps with the same view are equal.
-/
namespace PluginHost

namespace Keyed

variable {κ α β : Type}

def get? [DecidableEq κ] (key : κ) : List (κ × α) → Option α
  | [] => none
  | (k, v) :: rest => if k = key then some v else get? key rest

def insert [DecidableEq κ] [LT κ] [DecidableLT κ] (key : κ) (value : α) :
    List (κ × α) → List (κ × α)
  | [] => [(key, value)]
  | (k, v) :: rest =>
    if k = key then (key, value) :: rest
    else if key < k then (key, value) :: (k, v) :: rest
    else (k, v) :: insert key value rest

def erase [DecidableEq κ] (key : κ) : List (κ × α) → List (κ × α)
  | [] => []
  | (k, v) :: rest => if k = key then rest else (k, v) :: erase key rest

def Ordered [LT κ] (entries : List (κ × α)) : Prop := (entries.map Prod.fst).Pairwise (· < ·)

/-- Insert the entries one after the other: of equal keys the last wins. -/
def ofList [DecidableEq κ] [LT κ] [DecidableLT κ] (entries : List (κ × α)) : List (κ × α) :=
  entries.foldl (fun acc e => insert e.1 e.2 acc) []

theorem erase_sublist [DecidableEq κ] (key : κ) (entries : List (κ × α)) :
    (erase key entries).Sublist entries := by
  induction entries with
  | nil => exact List.Sublist.slnil
  | cons e rest ih =>
    simp only [erase]
    split
    · exact List.sublist_cons_self _ _
    · exact ih.cons_cons _

variable [LT κ]

theorem ordered_nil : Ordered ([] : List (κ × α)) := List.Pairwise.nil

theorem ordered_filter {p : κ × α → Bool} {entries : List (κ × α)} (h : Ordered entries) :
    Ordered (entries.filter p) :=
  h.sublist (List.filter_sublist.map Prod.fst)

theorem ordered_mapValues {f : κ → α → β} {entries : List (κ × α)} (h : Ordered entries) :
    Ordered (entries.map fun e => (e.1, f e.1 e.2)) := by
  unfold Ordered at h ⊢
  simpa [List.map_map, Function.comp_def] using h

theorem ordered_erase [DecidableEq κ] {key : κ} {entries : List (κ × α)} (h : Ordered entries) :
    Ordered (erase key entries) :=
  h.sublist ((erase_sublist key entries).map Prod.fst)

variable [DecidableEq κ] [DecidableLT κ]

theorem mem_keys_insert {key k : κ} {value : α} {entries : List (κ × α)}
    (h : k ∈ (insert key value entries).map Prod.fst) :
    k = key ∨ k ∈ entries.map Prod.fst := by
  induction entries with
  | nil => simpa [insert] using h
  | cons e rest ih =>
    obtain ⟨k', v⟩ := e
    simp only [insert] at h
    split at h
    · simp_all
    · split at h
      · simp_all
      · simp only [List.map_cons, List.mem_cons] at h ⊢
        rcases h with h | h
        · exact Or.inr (Or.inl h)
        · exact (ih h).imp_right Or.inr

variable [LE κ] [Std.IsLinearOrder κ] [Std.LawfulOrderLT κ]

theorem ordered_insert {key : κ} {value : α} {entries : List (κ × α)}
    (h : Ordered entries) : Ordered (insert key value entries) := by
  induction entries with
  | nil => simp [insert, Ordered]
  | cons e rest ih =>
    obtain ⟨k, v⟩ := e
    obtain ⟨hk, hr⟩ := List.pairwise_cons.1 h
    simp only [insert]
    split
    · next heq => exact List.pairwise_cons.2 ⟨fun a ha => heq ▸ hk a ha, hr⟩
    · next hne =>
      split
      · next hlt =>
        refine List.pairwise_cons.2 ⟨fun a ha => ?_, h⟩
        rcases List.mem_cons.1 ha with rfl | ha
        · exact hlt
        · exact Std.lt_trans hlt (hk a ha)
      · next hlt =>
        refine List.pairwise_cons.2 ⟨fun a ha => ?_, ih hr⟩
        rcases mem_keys_insert ha with rfl | ha
        · exact Std.lt_of_le_of_ne (Std.not_lt.1 hlt) hne
        · exact hk a ha

theorem ordered_foldl_insert {entries acc : List (κ × α)} (h : Ordered acc) :
    Ordered (entries.foldl (fun acc e => insert e.1 e.2 acc) acc) := by
  induction entries generalizing acc with
  | nil => exact h
  | cons e rest ih => exact ih (ordered_insert h)

theorem ordered_ofList (entries : List (κ × α)) : Ordered (ofList entries) :=
  ordered_foldl_insert ordered_nil

end Keyed

structure KeyedMap (α : Type) where
  entries : List (String × α)
  ordered : Keyed.Ordered entries

namespace KeyedMap

variable {α β : Type}

def empty : KeyedMap α := ⟨[], Keyed.ordered_nil⟩

instance : Inhabited (KeyedMap α) := ⟨empty⟩

def get? (m : KeyedMap α) (key : String) : Option α := Keyed.get? key m.entries

def insert (m : KeyedMap α) (key : String) (value : α) : KeyedMap α :=
  ⟨Keyed.insert key value m.entries, Keyed.ordered_insert m.ordered⟩

def erase (m : KeyedMap α) (key : String) : KeyedMap α :=
  ⟨Keyed.erase key m.entries, Keyed.ordered_erase m.ordered⟩

def ofList (entries : List (String × α)) : KeyedMap α :=
  ⟨Keyed.ofList entries, Keyed.ordered_ofList entries⟩

def mapValues (m : KeyedMap α) (f : String → α → β) : KeyedMap β :=
  ⟨m.entries.map fun e => (e.1, f e.1 e.2), Keyed.ordered_mapValues m.ordered⟩

def filter (m : KeyedMap α) (p : String → α → Bool) : KeyedMap α :=
  ⟨m.entries.filter fun e => p e.1 e.2, Keyed.ordered_filter m.ordered⟩

def keys (m : KeyedMap α) : List String := m.entries.map Prod.fst

def values (m : KeyedMap α) : List α := m.entries.map Prod.snd

def size (m : KeyedMap α) : Nat := m.entries.length

def isEmpty (m : KeyedMap α) : Bool := m.entries.isEmpty

def contains (m : KeyedMap α) (key : String) : Bool := (m.get? key).isSome

end KeyedMap

end PluginHost
