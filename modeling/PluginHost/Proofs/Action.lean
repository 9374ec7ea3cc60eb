import PluginHost.Discovery

/-!
What a computation comes to from a state: its result and the state afterwards. Every operation has
one equation for that, so that nothing else looks into the layers of a computation.
-/
namespace PluginHost

variable {σ τ α β : Type}

namespace Step

def outcome (a : Step σ α) (s : σ) : α × σ := (a s).value

@[simp] theorem outcome_pure (x : α) (s : σ) : outcome (pure x : Step σ α) s = (x, s) := rfl

theorem outcome_bind (a : Step σ α) (f : α → Step σ β) (s : σ) :
    outcome (a >>= f) s = (f (a.outcome s).1).outcome (a.outcome s).2 := rfl

theorem outcome_map (f : α → β) (a : Step σ α) (s : σ) :
    outcome (f <$> a) s = (f (a.outcome s).1, (a.outcome s).2) := rfl

@[simp] theorem outcome_get (s : σ) : outcome (get : Step σ σ) s = (s, s) := rfl

@[simp] theorem outcome_modify (f : σ → σ) (s : σ) :
    outcome (modify f : Step σ PUnit) s = (⟨⟩, f s) := rfl

@[simp] theorem outcome_log (event : Event) (s : σ) : outcome (log event) s = ((), s) := rfl

end Step

namespace Action

def outcome (a : Action σ α) (s : σ) : Except PluginError α × σ := (a s).value

def result (a : Action σ α) (s : σ) : Except PluginError α := (a.outcome s).1

def after (a : Action σ α) (s : σ) : σ := (a.outcome s).2

theorem outcome_bind (a : Action σ α) (f : α → Action σ β) (s : σ) :
    outcome (a >>= f) s =
      match a.outcome s with
      | (.ok x, t) => (f x).outcome t
      | (.error e, t) => (.error e, t) := by
  change (ExceptT.bind a f s).value = _
  rcases h : a s with ⟨⟨_ | x, t⟩, events⟩
  all_goals
    simp only [outcome, ExceptT.bind, ExceptT.mk, bind, StateT.bind, h]
    rfl

theorem outcome_tryCatch (a : Action σ α) (f : PluginError → Action σ α) (s : σ) :
    outcome (tryCatch a f) s =
      match a.outcome s with
      | (.ok x, t) => (.ok x, t)
      | (.error e, t) => (f e).outcome t := by
  change (ExceptT.tryCatch a f s).value = _
  rcases h : a s with ⟨⟨_ | x, t⟩, events⟩
  · simp only [outcome, ExceptT.tryCatch, ExceptT.mk, bind, StateT.bind, h]
  · simp only [outcome, ExceptT.tryCatch, ExceptT.mk, bind, StateT.bind, h]
    rfl

theorem outcome_bind_ok {a : Action σ α} {f : α → Action σ β} {s t : σ} {x : α}
    (h : a.outcome s = (.ok x, t)) : outcome (a >>= f) s = (f x).outcome t := by
  rw [outcome_bind, h]

theorem outcome_bind_error {a : Action σ α} {f : α → Action σ β} {s t : σ} {e : PluginError}
    (h : a.outcome s = (.error e, t)) : outcome (a >>= f) s = (.error e, t) := by
  rw [outcome_bind, h]

@[simp] theorem outcome_pure (x : α) (s : σ) : outcome (pure x : Action σ α) s = (.ok x, s) := rfl

@[simp] theorem outcome_throw (e : PluginError) (s : σ) :
    outcome (throw e : Action σ α) s = (.error e, s) := rfl

@[simp] theorem outcome_get (s : σ) : outcome (get : Action σ σ) s = (.ok s, s) := rfl

@[simp] theorem outcome_modify (f : σ → σ) (s : σ) :
    outcome (modify f : Action σ PUnit) s = (.ok ⟨⟩, f s) := rfl

@[simp] theorem outcome_log (event : Event) (s : σ) : outcome (log event) s = (.ok (), s) := rfl

@[simp] theorem outcome_ofTraced (t : Traced α) (s : σ) :
    outcome (ofTraced t) s = (.ok t.value, s) := rfl

@[simp] theorem outcome_ofExcept (x : Except PluginError α) (s : σ) :
    outcome (liftM x : Action σ α) s = (x, s) := rfl

@[simp] theorem outcome_ofStep (a : Step σ α) (s : σ) :
    outcome (liftM a : Action σ α) s = (.ok (a.outcome s).1, (a.outcome s).2) := rfl

@[simp] theorem outcome_focus (get : τ → σ) (set : σ → τ → τ) (a : Action σ α) (t : τ) :
    outcome (focus get set a) t = ((a.outcome (get t)).1, set (a.outcome (get t)).2 t) := rfl

end Action

end PluginHost
