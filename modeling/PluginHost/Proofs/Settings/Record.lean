import PluginHost.Keyed.Lemmas
import PluginHost.Proofs.Except
import PluginHost.Settings.Decoding

/-!
Records read from tables, field by field. A record whose fields lie apart is read from a table exactly
if the table has no other keys and each field can be read from what stands under its name; a field
without an entry is as it was.
-/
namespace PluginHost.Settings.Decoded

open Keyed (Ordered)

variable {α ρ : Type}

structure Slot (ρ : Type) : Type 1 where
  Content : Type
  name : String
  read : Tree → Decoded Content
  get : ρ → Content
  put : Content → ρ → ρ

namespace Slot

def field (p : Slot ρ) : Field ρ := .of p.name p.read p.put

/-- The field of `r` is what the tree says, or that of `start` without one. -/
def Shows (p : Slot ρ) (start : ρ) (t : Option Tree) (r : ρ) : Prop :=
  match t with
  | some t => p.read t = .ok (p.get r)
  | none => p.get r = p.get start

theorem eq_of_shows {p : Slot ρ} {start : ρ} {t : Option Tree} {r r' : ρ} (h : p.Shows start t r)
    (h' : p.Shows start t r') : p.get r = p.get r' := by
  cases t with
  | some t => exact Except.ok.inj (h.symm.trans h')
  | none => exact h.trans h'.symm

theorem set_eq_ok_iff {p : Slot ρ} {t : Tree} {r r' : ρ} :
    p.field.set t r = .ok r' ↔ ∃ a, p.read t = .ok a ∧ p.put a r = r' := by
  have hset : p.field.set t r = p.read t >>= fun a => .ok (p.put a r) := rfl
  rw [hset, Except.bind_eq_ok_iff]
  simp

end Slot

/-- The fields of a shape lie apart and make up the whole record. -/
structure Laid (s : RecordShape ρ) (slots : List (Slot ρ)) : Prop where
  fields : s.fields = slots.map Slot.field
  names : slots.Pairwise fun p q => p.name ≠ q.name
  own : ∀ p ∈ slots, ∀ a r, p.get (p.put a r) = a
  others : ∀ p ∈ slots, ∀ q ∈ slots, p.name ≠ q.name → ∀ a r, q.get (p.put a r) = q.get r
  whole : ∀ r r', (∀ p ∈ slots, p.get r = p.get r') → r = r'

theorem below_eq_ok_iff {step : String} {r : Decoded α} {a : α} : below step r = .ok a ↔ r = .ok a :=
  Except.mapError_eq_ok_iff

variable {s : RecordShape ρ} {slots : List (Slot ρ)} {r r' : ρ}

theorem Laid.eq_of_name (h : Laid s slots) {p q : Slot ρ} (hp : p ∈ slots) (hq : q ∈ slots)
    (hname : p.name = q.name) : p = q := by
  have hnames := h.names
  clear h
  induction slots with
  | nil => cases hp
  | cons first rest ih =>
    obtain ⟨hfirst, hrest⟩ := List.pairwise_cons.1 hnames
    rcases List.mem_cons.1 hp with rfl | hp' <;> rcases List.mem_cons.1 hq with rfl | hq'
    · rfl
    · exact absurd hname (hfirst q hq')
    · exact absurd hname.symm (hfirst p hp')
    · exact ih hp' hq' hrest

theorem Laid.find?_slot (h : Laid s slots) {p : Slot ρ} (hp : p ∈ slots) :
    s.fields.find? (·.name == p.name) = some p.field := by
  rw [h.fields, List.find?_map]
  cases hfind : slots.find? ((fun f : Field ρ => f.name == p.name) ∘ Slot.field) with
  | none => exact absurd (beq_self_eq_true p.name) (List.find?_eq_none.1 hfind p hp)
  | some q =>
    have hname : (q.name == p.name) = true :=
      List.find?_some (p := (fun f : Field ρ => f.name == p.name) ∘ Slot.field) hfind
    rw [h.eq_of_name (List.mem_of_find?_eq_some hfind) hp (eq_of_beq hname)]
    rfl

theorem Laid.slot_of_find? (h : Laid s slots) {key : String} {f : Field ρ}
    (hf : s.fields.find? (·.name == key) = some f) : ∃ p ∈ slots, p.name = key ∧ p.field = f := by
  rw [h.fields, List.find?_map] at hf
  obtain ⟨p, hp, rfl⟩ := Option.map_eq_some_iff.1 hf
  have hname : (p.name == key) = true :=
    List.find?_some (p := (fun f : Field ρ => f.name == key) ∘ Slot.field) hp
  exact ⟨p, List.mem_of_find?_eq_some hp, eq_of_beq hname, rfl⟩

theorem Laid.entries_cons_eq_ok_iff (h : Laid s slots) {key : String} {t : Tree} {rest : Layer} :
    entries s ((key, t) :: rest) r = .ok r' ↔
      ∃ p ∈ slots, p.name = key ∧ ∃ a, p.read t = .ok a ∧ entries s rest (p.put a r) = .ok r' := by
  constructor
  · intro hok
    rw [entries] at hok
    cases hf : s.fields.find? (·.name == key) with
    | none =>
      rw [hf] at hok
      cases hok
    | some f =>
      rw [hf] at hok
      obtain ⟨p, hp, hname, rfl⟩ := h.slot_of_find? hf
      obtain ⟨next, hset, hrest⟩ := Except.bind_eq_ok_iff.1 hok
      obtain ⟨a, ha, rfl⟩ := Slot.set_eq_ok_iff.1 (below_eq_ok_iff.1 hset)
      exact ⟨p, hp, hname, a, ha, hrest⟩
  · rintro ⟨p, hp, rfl, a, ha, hrest⟩
    rw [entries, h.find?_slot hp]
    exact Except.bind_eq_ok_iff.2
      ⟨_, below_eq_ok_iff.2 (Slot.set_eq_ok_iff.2 ⟨a, ha, rfl⟩), hrest⟩

theorem Laid.shows_put_iff (h : Laid s slots) {p q : Slot ρ} (hp : p ∈ slots) (hq : q ∈ slots)
    (hne : p.name ≠ q.name) {a : p.Content} {t : Option Tree} :
    q.Shows (p.put a r) t r' ↔ q.Shows r t r' := by
  cases t with
  | some t => exact Iff.rfl
  | none => simp only [Slot.Shows, h.others p hp q hq hne]

/-- Reading a table is reading each field from what stands under its name. -/
theorem Laid.entries_eq_ok_iff (h : Laid s slots) {es : Layer} (hes : Ordered es) :
    entries s es r = .ok r' ↔
      (∀ key ∈ es.map Prod.fst, ∃ p ∈ slots, p.name = key) ∧
        ∀ p ∈ slots, p.Shows r (Keyed.get? p.name es) r' := by
  induction es generalizing r with
  | nil =>
    have hnil : entries s [] r = .ok r' ↔ r = r' := by simp [entries, pure, Except.pure]
    rw [hnil]
    constructor
    · rintro rfl
      exact ⟨nofun, fun p _ => rfl⟩
    · rintro ⟨-, hshows⟩
      exact h.whole r r' fun p hp => (hshows p hp).symm
  | cons e rest ih =>
    obtain ⟨key, t⟩ := e
    have hnone : Keyed.get? key rest = none := Keyed.get?_eq_none_of_ordered hes
    simp only [h.entries_cons_eq_ok_iff, ih (List.pairwise_cons.1 hes).2, List.map_cons,
      List.forall_mem_cons]
    constructor
    · rintro ⟨p, hp, rfl, a, ha, hknown, hshows⟩
      refine ⟨⟨⟨p, hp, rfl⟩, hknown⟩, fun q hq => ?_⟩
      by_cases hname : p.name = q.name
      · obtain rfl := h.eq_of_name hp hq hname
        have hget : p.get r' = a := by
          have hnow := hshows p hp
          rw [hnone] at hnow
          exact hnow.trans (h.own p hp a r)
        simpa [Keyed.get?, Slot.Shows, hget] using ha
      · simpa [Keyed.get?, hname] using (h.shows_put_iff hp hq hname).1 (hshows q hq)
    · rintro ⟨⟨⟨p, hp, rfl⟩, hknown⟩, hshows⟩
      have ha : p.read t = .ok (p.get r') := by simpa [Keyed.get?, Slot.Shows] using hshows p hp
      refine ⟨p, hp, rfl, p.get r', ha, hknown, fun q hq => ?_⟩
      by_cases hname : p.name = q.name
      · obtain rfl := h.eq_of_name hp hq hname
        rw [hnone]
        exact (h.own p hp _ r).symm
      · apply (h.shows_put_iff hp hq hname).2
        simpa [Keyed.get?, hname] using hshows q hq

end PluginHost.Settings.Decoded
