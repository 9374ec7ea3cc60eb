import PluginHost.Keyed.Lemmas
import PluginHost.Value

/-!
Two configurations laid over each other, path by path. A value of the upper one stands where it stood
there, merged with an object below it if both are objects. Where the upper one has nothing, the last
value on the way decides: the lower one shows through an object, and nothing through anything else.
-/
namespace PluginHost

open Keyed (Ordered)

namespace Value

def isObject : Value → Bool
  | .obj _ => true
  | _ => false

theorem object_or_not (v : Value) : (∃ fields, v = obj fields) ∨ v.isObject = false := by
  cases v with
  | obj fields => exact .inl ⟨fields, rfl⟩
  | _ => exact .inr rfl

/-- What stands under a path of keys. Only objects have something below them. -/
def at? : List String → Value → Option Value
  | [], v => some v
  | key :: path, .obj fields => (Keyed.get? key fields).bind (at? path)
  | _ :: _, _ => none

@[simp] theorem at?_nil (v : Value) : v.at? [] = some v := by
  cases v <;> rfl

@[simp] theorem at?_cons_obj (key : String) (path : List String) (fields : List (String × Value)) :
    (obj fields).at? (key :: path) = (Keyed.get? key fields).bind (at? path) := rfl

theorem at?_cons_of_not_object {v : Value} (h : v.isObject = false) (key : String)
    (path : List String) : v.at? (key :: path) = none := by
  cases v with
  | obj fields => cases h
  | _ => rfl

theorem at?_append (p q : List String) (v : Value) :
    v.at? (p ++ q) = (v.at? p).bind (at? q) := by
  induction p generalizing v with
  | nil => simp
  | cons key p ih =>
    cases v with
    | obj fields =>
      simp only [List.cons_append, at?_cons_obj, Option.bind_assoc]
      congr 1
      funext w
      exact ih w
    | _ => rfl

theorem wellFormedFields_iff {fields : List (String × Value)} :
    WellFormedFields fields ↔ ∀ e ∈ fields, e.2.WellFormed := by
  induction fields with
  | nil => simp [WellFormedFields]
  | cons e rest ih => simp [WellFormedFields, ih]

theorem WellFormed.field {fields : List (String × Value)} (h : (obj fields).WellFormed)
    {key : String} {v : Value} (hv : Keyed.get? key fields = some v) : v.WellFormed :=
  wellFormedFields_iff.1 h.2 _ (Keyed.mem_of_get? hv)

theorem WellFormed.of_at? {u v : Value} (hu : u.WellFormed) {path : List String}
    (h : u.at? path = some v) : v.WellFormed := by
  induction path generalizing u with
  | nil =>
    rw [at?_nil] at h
    exact Option.some.inj h ▸ hu
  | cons key path ih =>
    cases u with
    | obj fields =>
      obtain ⟨w, hw, hv⟩ := Option.bind_eq_some_iff.1 h
      exact ih (hu.field hw) hv
    | _ => cases h

/-- `v` stands under the longest part of the path, from its start on, under which anything stands. -/
structure EndsAt (u : Value) (path q : List String) (v : Value) : Prop where
  start : q <+: path
  value : u.at? q = some v
  longest : ∀ r, r <+: path → (u.at? r).isSome → r.length ≤ q.length

theorem endsAt_append_cons_iff {u v : Value} {q rest : List String} {key : String} :
    u.EndsAt (q ++ key :: rest) q v ↔ u.at? q = some v ∧ u.at? (q ++ [key]) = none := by
  constructor
  · intro h
    refine ⟨h.value, Option.not_isSome_iff_eq_none.1 fun hsome => ?_⟩
    have hle := h.longest (q ++ [key]) (by simp) hsome
    rw [List.length_append, List.length_singleton] at hle
    omega
  · rintro ⟨hvalue, hnone⟩
    refine ⟨List.prefix_append q _, hvalue, fun r hr hsome => ?_⟩
    rw [← Nat.not_lt]
    intro hlt
    have hkey : q ++ [key] <+: r := by
      apply List.prefix_of_prefix_length_le (by simp) hr
      rw [List.length_append, List.length_singleton]
      omega
    obtain ⟨tail, rfl⟩ := hkey
    rw [at?_append, hnone] at hsome
    cases hsome

theorem exists_endsAt (u : Value) (path : List String) : ∃ q v, u.EndsAt path q v := by
  induction path generalizing u with
  | nil => exact ⟨[], u, List.nil_prefix, at?_nil u, fun r hr _ => by simp [List.prefix_nil.1 hr]⟩
  | cons key path ih =>
    have hcons : ∀ r, u.at? (key :: r) = (u.at? [key]).bind (at? r) := fun r => at?_append [key] r u
    cases hkey : u.at? [key] with
    | none => exact ⟨[], u, endsAt_append_cons_iff.2 ⟨at?_nil u, hkey⟩⟩
    | some w =>
      obtain ⟨q, v, hstart, hvalue, hlongest⟩ := ih w
      refine ⟨key :: q, v, List.cons_prefix_cons.2 ⟨rfl, hstart⟩, by rw [hcons, hkey]; exact hvalue,
        fun r hr hsome => ?_⟩
      cases r with
      | nil => simp
      | cons k r =>
        obtain ⟨rfl, hrest⟩ := List.cons_prefix_cons.1 hr
        rw [hcons, hkey] at hsome
        exact Nat.succ_le_succ (hlongest r hrest hsome)

end Value

namespace Configuration

def at? (c : Configuration) (path : List String) : Option Value := (Value.ofMap c).at? path

/-- Objects list each of their keys once, at every depth. -/
def WellFormed (c : Configuration) : Prop := (Value.ofMap c).WellFormed

def mergeEntry : Option Value → Option Value → Option Value
  | lower, none => lower
  | none, some upper => some upper
  | some lower, some upper => some (mergeValue lower upper)

@[simp] theorem mergeEntry_none (lower : Option Value) : mergeEntry lower none = lower := by
  cases lower <;> rfl

@[simp] theorem none_mergeEntry (upper : Option Value) : mergeEntry none upper = upper := by
  cases upper <;> rfl

@[simp] theorem mergeEntry_some (lower upper : Value) :
    mergeEntry (some lower) (some upper) = some (mergeValue lower upper) := rfl

theorem mergeValue_of_not_object {upper : Value} (h : upper.isObject = false) (lower : Value) :
    mergeValue lower upper = upper := by
  cases upper with
  | obj fields => cases h
  | _ => cases lower <;> rfl

theorem mergeValue_obj_obj (lower upper : List (String × Value)) :
    mergeValue (.obj lower) (.obj upper) = .obj (mergeFields lower upper) := by
  simp [mergeValue]

theorem mergeValue_obj_of_not_object {lower : Value} (h : lower.isObject = false)
    (upper : List (String × Value)) : mergeValue lower (.obj upper) = .obj upper := by
  cases lower with
  | obj fields => cases h
  | _ => simp [mergeValue]

theorem mergeEntry_of_not_object {upper : Value} (h : upper.isObject = false) (lower : Option Value) :
    mergeEntry lower (some upper) = some upper := by
  cases lower with
  | none => rfl
  | some l => rw [mergeEntry_some, mergeValue_of_not_object h]

theorem ofMap_merge (d o : Configuration) :
    Value.ofMap (merge d o) = mergeValue (.ofMap d) (.ofMap o) :=
  (mergeValue_obj_obj d.entries o.entries).symm

theorem get?_mergeFields {lower upper : List (String × Value)} (h : Ordered upper) (key : String) :
    Keyed.get? key (mergeFields lower upper) =
      mergeEntry (Keyed.get? key lower) (Keyed.get? key upper) := by
  induction upper generalizing lower with
  | nil => simp [mergeFields, Keyed.get?]
  | cons e rest ih =>
    obtain ⟨k, u⟩ := e
    rw [mergeFields, ih (List.pairwise_cons.1 h).2, Keyed.get?_insert]
    by_cases hk : k = key
    · subst hk
      rw [Keyed.get?_eq_none_of_ordered h]
      cases hl : Keyed.get? k lower <;> simp [Keyed.get?]
    · simp [Keyed.get?, hk]

theorem mem_keys_mergeFields {lower upper : List (String × Value)} (h : Ordered upper)
    (key : String) : key ∈ (mergeFields lower upper).map Prod.fst ↔
      key ∈ upper.map Prod.fst ∨ key ∈ lower.map Prod.fst := by
  have hnone : mergeEntry (Keyed.get? key lower) (Keyed.get? key upper) = none ↔
      Keyed.get? key upper = none ∧ Keyed.get? key lower = none := by
    cases Keyed.get? key lower <;> cases Keyed.get? key upper <;> simp
  rw [← get?_mergeFields h] at hnone
  simp only [Keyed.get?_eq_none_iff] at hnone
  grind

/-! A value of the upper configuration is merged where it stands. -/

theorem at?_mergeValue {upper : Value} (hupper : upper.WellFormed) {path : List String} {u : Value}
    (h : upper.at? path = some u) (lower : Value) :
    (mergeValue lower upper).at? path = mergeEntry (lower.at? path) (some u) := by
  induction path generalizing lower upper with
  | nil =>
    rw [Value.at?_nil] at h
    simp [Option.some.inj h]
  | cons key path ih =>
    cases upper with
    | obj us =>
      obtain ⟨w, hw, hu⟩ := Option.bind_eq_some_iff.1 h
      rcases lower.object_or_not with ⟨ls, rfl⟩ | hlower
      · rw [mergeValue_obj_obj, Value.at?_cons_obj, get?_mergeFields hupper.1, hw, Value.at?_cons_obj]
        cases hl : Keyed.get? key ls with
        | none => simpa using hu
        | some l => simpa using ih (hupper.field hw) hu l
      · rw [mergeValue_obj_of_not_object hlower, Value.at?_cons_of_not_object hlower,
          none_mergeEntry, h]
    | _ => cases h

/-- An object lets show through what lies below it under keys that it does not have. -/
theorem bind_mergeEntry_obj {us : List (String × Value)} (hus : Ordered us) {key : String}
    (hkey : Keyed.get? key us = none) (lower : Option Value) (path : List String) :
    (mergeEntry lower (some (.obj us))).bind (Value.at? (key :: path)) =
      lower.bind (Value.at? (key :: path)) := by
  cases lower with
  | none => simp [hkey]
  | some l =>
    rcases l.object_or_not with ⟨ls, rfl⟩ | hl
    · simp [mergeValue_obj_obj, get?_mergeFields hus, hkey]
    · simp [mergeValue_obj_of_not_object hl, Value.at?_cons_of_not_object hl, hkey]

/-- Above its last value on the way a path leads only to what shows through that value. -/
theorem at?_mergeValue_of_endsAt {upper : Value} (hupper : upper.WellFormed) {path q : List String}
    {u : Value} (hu : upper.EndsAt path q u) (hnone : upper.at? path = none) (lower : Value) :
    (mergeValue lower upper).at? path = if u.isObject then lower.at? path else none := by
  obtain ⟨rest, rfl⟩ := hu.start
  cases rest with
  | nil => simp [hu.value] at hnone
  | cons key rest =>
    obtain ⟨-, hkey⟩ := Value.endsAt_append_cons_iff.1 hu
    rw [Value.at?_append, hu.value] at hkey
    rw [Value.at?_append, Value.at?_append, at?_mergeValue hupper hu.value]
    rcases u.object_or_not with ⟨us, rfl⟩ | hobject
    · have hus : Keyed.get? key us = none := by
        cases h : Keyed.get? key us with
        | none => rfl
        | some w => simp [h] at hkey
      rw [bind_mergeEntry_obj (hupper.of_at? hu.value).1 hus]
      rfl
    · rw [mergeEntry_of_not_object hobject, Option.bind_some, Value.at?_cons_of_not_object hobject]
      simp [hobject]

/-- What is under a path after `o` is laid over `d`. A value of `o` that is no object is there as it
was. An object of `o` is an object there, with its own keys and those of an object that `d` has there.
Where `o` has nothing, its last value on the way is decisive: what `d` has there is there if that is an
object, and nothing is if it is not. -/
theorem at?_merge (d o : Configuration) (ho : o.WellFormed) (path : List String) :
    (∀ v, o.at? path = some v → v.isObject = false → (merge d o).at? path = some v) ∧
    (∀ upper, o.at? path = some (.obj upper) →
      ∃ merged, (merge d o).at? path = some (.obj merged) ∧
        ∀ key, key ∈ merged.map Prod.fst ↔ key ∈ upper.map Prod.fst ∨
          ∃ lower, d.at? path = some (.obj lower) ∧ key ∈ lower.map Prod.fst) ∧
    (o.at? path = none → (∃ q v, (Value.ofMap o).EndsAt path q v) ∧
      ∀ q v, (Value.ofMap o).EndsAt path q v →
        (merge d o).at? path = if v.isObject then d.at? path else none) := by
  have hvalue : ∀ v, o.at? path = some v → (merge d o).at? path = mergeEntry (d.at? path) (some v) := by
    intro v hv
    unfold at?
    rw [ofMap_merge]
    exact at?_mergeValue ho hv (.ofMap d)
  refine ⟨fun v hv hobject => ?_, fun upper hupper => ?_, fun hnone => ⟨?_, fun q v hends => ?_⟩⟩
  · rw [hvalue v hv, mergeEntry_of_not_object hobject]
  · have hordered : Ordered upper := (Value.WellFormed.of_at? ho hupper).1
    rw [hvalue _ hupper]
    cases hd : d.at? path with
    | none => exact ⟨upper, rfl, by simp⟩
    | some l =>
      rcases l.object_or_not with ⟨lower, rfl⟩ | hl
      · exact ⟨_, congrArg some (mergeValue_obj_obj lower upper), by
          simp [mem_keys_mergeFields hordered]⟩
      · refine ⟨upper, congrArg some (mergeValue_obj_of_not_object hl upper), fun key => ?_⟩
        have hno : ∀ lower, l ≠ .obj lower := by
          rintro lower rfl
          cases hl
        simp [hno]
  · exact Value.exists_endsAt _ path
  · unfold at?
    rw [ofMap_merge]
    exact at?_mergeValue_of_endsAt ho hends hnone (.ofMap d)

def sampleLower : Configuration :=
  ⟨[("cache", .obj [("max_age", .int 60), ("tags", .arr [.str "a"])]),
    ("label", .obj [("text", .str "x")])], by unfold Ordered; decide⟩

def sampleUpper : Configuration :=
  ⟨[("cache", .obj [("tags", .arr [.str "b"])]), ("label", .bool false)], by unfold Ordered; decide⟩

theorem wellFormed_sampleUpper : sampleUpper.WellFormed := by
  simp only [WellFormed, sampleUpper, Value.ofMap, Value.WellFormed, Value.WellFormedFields,
    Value.WellFormedItems]
  unfold Ordered
  decide

/-- The age shows through the object above it, the text is hidden by the value above it. -/
theorem sampleLower_shows_through :
    sampleUpper.WellFormed ∧ sampleUpper.at? ["cache", "max_age"] = none ∧
      sampleUpper.at? ["label", "text"] = none ∧
      (merge sampleLower sampleUpper).at? ["cache", "max_age"] = some (.int 60) ∧
      (merge sampleLower sampleUpper).at? ["label", "text"] = none := by
  have hmerge := at?_merge sampleLower sampleUpper wellFormed_sampleUpper
  have hcache : (Value.ofMap sampleUpper).EndsAt (["cache"] ++ ["max_age"]) ["cache"]
      (.obj [("tags", .arr [.str "b"])]) := Value.endsAt_append_cons_iff.2 ⟨rfl, rfl⟩
  have hlabel : (Value.ofMap sampleUpper).EndsAt (["label"] ++ ["text"]) ["label"] (.bool false) :=
    Value.endsAt_append_cons_iff.2 ⟨rfl, rfl⟩
  exact ⟨wellFormed_sampleUpper, rfl, rfl, ((hmerge ["cache", "max_age"]).2.2 rfl).2 _ _ hcache,
    ((hmerge ["label", "text"]).2.2 rfl).2 _ _ hlabel⟩

end Configuration

end PluginHost
