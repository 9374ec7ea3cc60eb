import PluginHost.Text.Blank

/-!
Texts split at a separator: at its first occurrence, or at all of them.
-/
namespace PluginHost.Text

theorem splitFirst_eq_none_iff {sep : Char} {cs : List Char} :
    splitFirst sep cs = none ↔ sep ∉ cs := by
  induction cs with
  | nil => simp [splitFirst]
  | cons c cs ih =>
    by_cases h : c = sep
    · simp [splitFirst, h]
    · simp [splitFirst, h, ih, Ne.symm h]

theorem splitFirst_eq_some_iff {sep : Char} {cs before after : List Char} :
    splitFirst sep cs = some (before, after) ↔ cs = before ++ sep :: after ∧ sep ∉ before := by
  induction cs generalizing before with
  | nil => simp [splitFirst]
  | cons c cs ih =>
    by_cases h : c = sep
    · cases before with
      | nil => simp [splitFirst, h]
      | cons b before => simp +contextual [splitFirst, h]
    · cases before with
      | nil => simp [splitFirst, h]
      | cons b before =>
        simp only [splitFirst, h, if_false, Option.map_eq_some_iff, Prod.mk.injEq, Prod.exists,
          List.cons.injEq, List.cons_append, List.mem_cons, not_or]
        constructor
        · rintro ⟨_, _, hsplit, ⟨rfl, rfl⟩, rfl⟩
          obtain ⟨rfl, hbefore⟩ := ih.1 hsplit
          exact ⟨⟨rfl, rfl⟩, Ne.symm h, hbefore⟩
        · rintro ⟨⟨rfl, rfl⟩, -, hbefore⟩
          exact ⟨before, after, ih.2 ⟨rfl, hbefore⟩, ⟨rfl, rfl⟩, rfl⟩

theorem append_sep_inj {sep : Char} {a b as bs : List Char} (ha : sep ∉ a) (hb : sep ∉ b) :
    a ++ sep :: as = b ++ sep :: bs ↔ a = b ∧ as = bs := by
  constructor
  · intro h
    have hfirst : splitFirst sep (a ++ sep :: as) = some (b, bs) := splitFirst_eq_some_iff.2 ⟨h, hb⟩
    rw [splitFirst_eq_some_iff.2 ⟨rfl, ha⟩] at hfirst
    simpa using hfirst
  · rintro ⟨rfl, rfl⟩
    rfl

theorem eq_of_joined {sep : String} {c : Char} (hsep : sep.toList = [c]) {a b as bs : String}
    (ha : c ∉ a.toList) (hb : c ∉ b.toList) (h : a ++ sep ++ as = b ++ sep ++ bs) :
    a = b ∧ as = bs := by
  have hlist : a.toList ++ c :: as.toList = b.toList ++ c :: bs.toList := by
    simpa [hsep] using congrArg String.toList h
  exact ((append_sep_inj ha hb).1 hlist).imp String.toList_injective String.toList_injective

variable {α : Type} [DecidableEq α]

theorem splitAll_ne_nil (sep : α) (cs : List α) : splitAll sep cs ≠ [] := by
  cases cs with
  | nil => exact List.cons_ne_nil _ _
  | cons c cs =>
    unfold splitAll
    split
    · exact List.cons_ne_nil _ _
    · split <;> exact List.cons_ne_nil _ _

theorem splitAll_cons_sep (sep : α) (cs : List α) :
    splitAll sep (sep :: cs) = [] :: splitAll sep cs := by
  rw [splitAll, if_pos rfl]

theorem splitAll_cons_of_ne {sep c : α} (h : c ≠ sep) {cs part : List α}
    {parts : List (List α)} (hparts : splitAll sep cs = part :: parts) :
    splitAll sep (c :: cs) = (c :: part) :: parts := by
  rw [splitAll, if_neg h, hparts]

theorem splitAll_append_sep (sep : α) (cs ds : List α) :
    splitAll sep (cs ++ sep :: ds) = splitAll sep cs ++ splitAll sep ds := by
  induction cs with
  | nil => exact splitAll_cons_sep sep ds
  | cons c cs ih =>
    rw [List.cons_append]
    by_cases h : c = sep
    · rw [h, splitAll_cons_sep, splitAll_cons_sep, ih, List.cons_append]
    · obtain ⟨part, parts, hparts⟩ := List.exists_cons_of_ne_nil (splitAll_ne_nil sep cs)
      have hmore : splitAll sep (cs ++ sep :: ds) = part :: (parts ++ splitAll sep ds) := by
        rw [ih, hparts, List.cons_append]
      rw [splitAll_cons_of_ne h hmore, splitAll_cons_of_ne h hparts, List.cons_append]

theorem splitAll_eq_singleton {sep : α} {cs : List α} (h : sep ∉ cs) :
    splitAll sep cs = [cs] := by
  induction cs with
  | nil => rfl
  | cons c cs ih =>
    simp only [List.mem_cons, not_or] at h
    exact splitAll_cons_of_ne (Ne.symm h.1) (ih h.2)

end PluginHost.Text
