import PluginHost.Proofs.Action

/-!
What a computation logs. A reading `read` takes out of the log the events that it knows; a computation
is silent for it if it logs none of these, whatever state it starts from.
-/
namespace PluginHost

variable {σ α β ι : Type} {read : Event → Option ι}

def Traced.logged (read : Event → Option ι) (t : Traced α) : List ι := t.events.filterMap read

theorem Traced.logged_forM {f : α → Traced PUnit} (h : ∀ x, (f x).logged read = []) (xs : List α) :
    (xs.forM f).logged read = [] := by
  induction xs with
  | nil => rfl
  | cons x rest ih =>
    change ((f x).events ++ (rest.forM f).events).filterMap read = []
    rw [List.filterMap_append]
    exact List.append_eq_nil_iff.2 ⟨h x, ih⟩

namespace Step

def logged (read : Event → Option ι) (a : Step σ α) (s : σ) : List ι := (a s).logged read

def Silent (read : Event → Option ι) (a : Step σ α) : Prop := ∀ s, a.logged read s = []

theorem logged_bind (a : Step σ α) (f : α → Step σ β) (s : σ) :
    logged read (a >>= f) s =
      a.logged read s ++ (f (a.outcome s).1).logged read (a.outcome s).2 :=
  List.filterMap_append

theorem silent_pure (x : α) : Silent read (pure x : Step σ α) := fun _ => rfl

theorem silent_get : Silent read (get : Step σ σ) := fun _ => rfl

theorem silent_set (s : σ) : Silent read (set s : Step σ PUnit) := fun _ => rfl

theorem silent_modify (f : σ → σ) : Silent read (modify f : Step σ PUnit) := fun _ => rfl

theorem silent_log {event : Event} (h : read event = none) :
    Silent read (log event : Step σ Unit) := fun _ => by
  change [event].filterMap read = []
  simp [h]

theorem Silent.bind {a : Step σ α} {f : α → Step σ β} (ha : a.Silent read)
    (hf : ∀ x, (f x).Silent read) : Silent read (a >>= f) := fun s => by
  rw [logged_bind, ha s, hf _ _, List.append_nil]

theorem silent_foldlM {f : β → α → Step σ β} (h : ∀ b x, (f b x).Silent read) (xs : List α)
    (b : β) : Silent read (xs.foldlM f b) := by
  induction xs generalizing b with
  | nil => exact silent_pure b
  | cons x rest ih =>
    rw [List.foldlM_cons]
    exact (h b x).bind ih

end Step

namespace Action

def logged (read : Event → Option ι) (a : Action σ α) (s : σ) : List ι := (a s).logged read

def Silent (read : Event → Option ι) (a : Action σ α) : Prop := ∀ s, a.logged read s = []

theorem logged_bind (a : Action σ α) (f : α → Action σ β) (s : σ) :
    logged read (a >>= f) s = a.logged read s ++
      match a.outcome s with
      | (.ok x, t) => (f x).logged read t
      | (.error _, _) => [] := by
  change Traced.logged read (ExceptT.bind a f s) = _
  rcases h : a s with ⟨⟨_ | x, t⟩, events⟩
  all_goals
    simp only [logged, outcome, Traced.logged, ExceptT.bind, ExceptT.mk, bind, StateT.bind, h]
    exact List.filterMap_append

theorem logged_bind_ok {a : Action σ α} {f : α → Action σ β} {s t : σ} {x : α}
    (h : a.outcome s = (.ok x, t)) :
    logged read (a >>= f) s = a.logged read s ++ (f x).logged read t := by
  rw [logged_bind, h]

theorem silent_pure (x : α) : Silent read (pure x : Action σ α) := fun _ => rfl

theorem silent_get : Silent read (get : Action σ σ) := fun _ => rfl

theorem silent_ofExcept (x : Except PluginError α) : Silent read (liftM x : Action σ α) :=
  fun _ => by cases x <;> rfl

theorem silent_log {event : Event} (h : read event = none) :
    Silent read (log event : Action σ Unit) := fun _ => by
  change [event].filterMap read = []
  simp [h]

theorem silent_ofTraced {t : Traced α} (h : t.logged read = []) :
    Silent read (ofTraced t : Action σ α) := fun _ => by
  change (t.events ++ [] ++ []).filterMap read = []
  rw [List.append_nil, List.append_nil]
  exact h

theorem silent_ofStep {a : Step σ α} (h : a.Silent read) : Silent read (liftM a : Action σ α) :=
  fun s => by
    change ((a s).events ++ []).filterMap read = []
    rw [List.append_nil]
    exact h s

theorem Silent.bind {a : Action σ α} {f : α → Action σ β} (ha : a.Silent read)
    (hf : ∀ x, (f x).Silent read) : Silent read (a >>= f) := fun s => by
  rw [logged_bind, ha s, List.nil_append]
  split
  · exact hf _ _
  · rfl

end Action

end PluginHost
