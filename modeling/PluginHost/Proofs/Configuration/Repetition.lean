import PluginHost.Plugin.Sample
import PluginHost.Proofs.Configuration.Merge

/-!
Configurations laid over others once more. What is laid over something that it was already laid over,
or that has been laid over it, changes nothing, so a plugin can be given a configuration again, its own
one included.
-/
namespace PluginHost

open Keyed (Ordered)

theorem Value.induction_obj {motive : Value → Prop}
    (obj : ∀ fields, (∀ key v, Keyed.get? key fields = some v → motive v) → motive (.obj fields))
    (other : ∀ v, v.isObject = false → motive v) : ∀ v, motive v
  | .obj fields => obj fields fun key v h => by
      have hmem : (key, v) ∈ fields := Keyed.mem_of_get? h
      have hvalue : sizeOf v < sizeOf (key, v) := by
        rw [Prod.mk.sizeOf_spec]
        omega
      have hsize : sizeOf v < sizeOf fields := Nat.lt_trans hvalue (List.sizeOf_lt_of_mem hmem)
      exact Value.induction_obj obj other v
  | .null => other _ rfl
  | .bool _ => other _ rfl
  | .int _ => other _ rfl
  | .float _ => other _ rfl
  | .str _ => other _ rfl
  | .arr _ => other _ rfl

namespace Configuration

theorem mergeValue_self (v : Value) (hv : v.WellFormed) : mergeValue v v = v := by
  induction v using Value.induction_obj with
  | other v hobject => exact mergeValue_of_not_object hobject v
  | obj fields ih =>
    rw [mergeValue_obj_obj]
    congr 1
    apply Keyed.eq_of_get? (ordered_mergeFields hv.1) hv.1
    intro key
    rw [get?_mergeFields hv.1]
    cases h : Keyed.get? key fields with
    | none => rfl
    | some w => rw [mergeEntry_some, ih key w h (hv.field h)]

theorem mergeValue_mergeValue_right {lower upper : Value} (hlower : lower.WellFormed)
    (hupper : upper.WellFormed) :
    mergeValue (mergeValue lower upper) upper = mergeValue lower upper := by
  -- Under a key that both objects have, the values below it are merged twice in their turn; under any
  -- other key there is one value, which is merged with itself at most.
  induction upper using Value.induction_obj generalizing lower with
  | other upper hobject => simp only [mergeValue_of_not_object hobject]
  | obj us ih =>
    rcases lower.object_or_not with ⟨ls, rfl⟩ | hobject
    · simp only [mergeValue_obj_obj]
      congr 1
      apply Keyed.eq_of_get? (ordered_mergeFields (ordered_mergeFields hlower.1))
        (ordered_mergeFields hlower.1)
      intro key
      simp only [get?_mergeFields hupper.1]
      cases hu : Keyed.get? key us with
      | none => simp
      | some u =>
        cases hl : Keyed.get? key ls with
        | none => simp [mergeValue_self u (hupper.field hu)]
        | some l => simp [ih key u hu (hlower.field hl) (hupper.field hu)]
    · rw [mergeValue_obj_of_not_object hobject, mergeValue_self _ hupper]

theorem mergeValue_mergeValue_left {lower upper : Value} (hlower : lower.WellFormed)
    (hupper : upper.WellFormed) :
    mergeValue lower (mergeValue lower upper) = mergeValue lower upper := by
  induction upper using Value.induction_obj generalizing lower with
  | other upper hobject => simp only [mergeValue_of_not_object hobject]
  | obj us ih =>
    rcases lower.object_or_not with ⟨ls, rfl⟩ | hobject
    · have hmerged : Ordered (mergeFields ls us) := ordered_mergeFields hlower.1
      simp only [mergeValue_obj_obj]
      congr 1
      apply Keyed.eq_of_get? (ordered_mergeFields hlower.1) hmerged
      intro key
      rw [get?_mergeFields hmerged, get?_mergeFields hupper.1]
      cases hl : Keyed.get? key ls with
      | none => simp
      | some l =>
        cases hu : Keyed.get? key us with
        | none => simp [mergeValue_self l (hlower.field hl)]
        | some u => simp [ih key u hu (hlower.field hl) (hupper.field hu)]
    · rw [mergeValue_obj_of_not_object hobject, mergeValue_obj_of_not_object hobject]

theorem eq_of_ofMap_eq {c c' : Configuration} (h : Value.ofMap c = .ofMap c') : c = c' := by
  obtain ⟨entries, _⟩ := c
  obtain ⟨entries', _⟩ := c'
  obtain rfl : entries = entries' := Value.obj.inj h
  rfl

theorem merge_merge_left {d o : Configuration} (hd : d.WellFormed) (ho : o.WellFormed) :
    merge d (merge d o) = merge d o := by
  apply eq_of_ofMap_eq
  simp only [ofMap_merge]
  exact mergeValue_mergeValue_left hd ho

theorem wellFormed_defaultConfiguration : WellFormed SamplePlugin.defaultConfiguration := by
  simp [WellFormed, SamplePlugin.defaultConfiguration, Value.ofMap, KeyedMap.insert, KeyedMap.empty,
    Keyed.insert, Value.WellFormed, Value.WellFormedFields, Ordered]

/-- Laying a configuration over itself, over what it has been laid over, or over a part that it was made
of changes nothing. So a plugin that was given a configuration can be given it again, or its own. -/
theorem merge_again (d o : Configuration) (hd : d.WellFormed) (ho : o.WellFormed) :
    merge o o = o ∧ merge (merge d o) o = merge d o ∧ merge d (merge d o) = merge d o ∧
      ∀ (p : SamplePlugin) (c : Configuration), c.WellFormed →
        (p.configure c).configure c = p.configure c ∧
          (p.configure c).configure (p.configure c).configuration = p.configure c := by
  refine ⟨eq_of_ofMap_eq ?_, eq_of_ofMap_eq ?_, merge_merge_left hd ho, fun p c hc => ⟨rfl, ?_⟩⟩
  · rw [ofMap_merge]
    exact mergeValue_self _ ho
  · simp only [ofMap_merge]
    exact mergeValue_mergeValue_right hd ho
  · unfold SamplePlugin.configure
    rw [merge_merge_left wellFormed_defaultConfiguration hc]

theorem wellFormed_sampleLower : sampleLower.WellFormed := by
  simp only [WellFormed, sampleLower, Value.ofMap, Value.WellFormed, Value.WellFormedFields,
    Value.WellFormedItems]
  unfold Ordered
  decide

def samplePlugin : SamplePlugin where
  id := "block"
  definition := { id := "block" }
  configuration := .empty

/-- The plugin is enabled by default, and stays as it is when it is given its own configuration. -/
theorem samplePlugin_configured_again :
    sampleLower.WellFormed ∧ sampleUpper.WellFormed ∧
      merge (merge sampleLower sampleUpper) sampleUpper = merge sampleLower sampleUpper ∧
      (samplePlugin.configure sampleUpper).configuration.get? "enabled" = some (.bool true) ∧
      (samplePlugin.configure sampleUpper).configure
          (samplePlugin.configure sampleUpper).configuration =
        samplePlugin.configure sampleUpper := by
  obtain ⟨-, hagain, -, hplugin⟩ :=
    merge_again sampleLower sampleUpper wellFormed_sampleLower wellFormed_sampleUpper
  refine ⟨wellFormed_sampleLower, wellFormed_sampleUpper, hagain, rfl, ?_⟩
  exact (hplugin samplePlugin sampleUpper wellFormed_sampleUpper).2

end Configuration

end PluginHost
