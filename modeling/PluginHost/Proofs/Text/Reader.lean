import PluginHost.Text.Reader

/-!
What readers give, whatever they read: a property of all results follows the way in which readers are
put together.
-/
namespace PluginHost.Text.Reader

variable {α β : Type} {p : α → Prop} {q : β → Prop} {r s : Reader α}

def Yields (r : Reader α) (p : α → Prop) : Prop := ∀ cs a rest, r cs = some (a, rest) → p a

theorem Yields.of_run (h : Yields r p) {cs : List Char} {a : α} (hrun : r.run cs = some a) : p a := by
  unfold run at hrun
  split at hrun
  · next hr => exact Option.some.inj hrun ▸ h _ _ _ hr
  · cases hrun

theorem yields_pure {a : α} (ha : p a) : Yields (pure a) p := by
  intro cs a' rest h
  cases h
  exact ha

theorem yields_failure : Yields (failure : Reader α) p := nofun

theorem Yields.bind (hr : Yields r p) {f : α → Reader β} (hf : ∀ a, p a → Yields (f a) q) :
    Yields (r >>= f) q := by
  intro cs b rest h
  obtain ⟨⟨a, middle⟩, ha, hb⟩ := Option.bind_eq_some_iff.1 h
  exact hf a (hr _ _ _ ha) _ _ _ hb

/-- The first reader may give anything. -/
theorem yields_bind {f : α → Reader β} (hf : ∀ a, Yields (f a) q) : Yields (r >>= f) q :=
  Yields.bind (p := fun _ => True) (fun _ _ _ _ => trivial) fun a _ => hf a

theorem yields_lift {x : Option α} (hx : ∀ a, x = some a → p a) :
    Yields (StateT.lift x : Reader α) p := by
  intro cs a rest h
  obtain ⟨a', ha', heq⟩ := Option.bind_eq_some_iff.1 h
  cases heq
  exact hx a ha'

theorem yields_orElse (hr : Yields r p) (hs : Yields s p) : Yields (orElse r s) p := by
  intro cs a rest h
  unfold orElse at h
  split at h
  · next hres => exact hr _ _ _ (hres.trans h)
  · exact hs _ _ _ h

theorem yields_maybe (hr : Yields r p) : Yields (maybe r) fun found => ∀ a ∈ found, p a := by
  intro cs found rest h
  unfold maybe at h
  split at h
  · next hres =>
    cases h
    rintro _ ⟨⟩
    exact hr _ _ _ hres
  · cases h
    nofun

theorem yields_manyFrom (hr : Yields r p) (bound : List Char) :
    Yields (manyFrom r bound) fun as => ∀ a ∈ as, p a := by
  induction bound with
  | nil => exact yields_pure nofun
  | cons c fuel ih =>
    refine (yields_maybe hr).bind fun found hfound => ?_
    cases found with
    | none => exact yields_pure nofun
    | some a =>
      exact ih.bind fun rest hrest => yields_pure (List.forall_mem_cons.2 ⟨hfound a rfl, hrest⟩)

theorem yields_many (hr : Yields r p) : Yields (many r) fun as => ∀ a ∈ as, p a :=
  fun cs as rest h => yields_manyFrom hr cs cs as rest h

theorem yields_separated1 (hr : Yields r p) {separator : Reader β} :
    Yields (separated1 r separator) fun as => ∀ a ∈ as, p a :=
  hr.bind fun _ ha => (yields_many (yields_bind fun _ => hr)).bind fun _ hmore =>
    yields_pure (List.forall_mem_cons.2 ⟨ha, hmore⟩)

end PluginHost.Text.Reader
