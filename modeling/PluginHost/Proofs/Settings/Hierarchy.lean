import PluginHost.Proofs.Except
import PluginHost.Proofs.Settings.Written
import PluginHost.Settings.Hierarchy

/-!
Settings come of layers that can all be read. What a text or a file gives as its layer has its keys in
order and holds something under each of them.
-/
namespace PluginHost.Settings

open Settings.Tree
open Keyed (Ordered)

theorem foldl_layAll_eq_ok_iff {layers : List (Except LayerFault Layer)}
    {start : Except (List LayerFault) Layer} {entries : Layer} :
    layers.foldl layAll.add start = .ok entries ↔
      ∃ base, ∃ ls : List Layer, start = .ok base ∧ layers = ls.map .ok ∧
        entries = ls.foldl layEntries base := by
  induction layers generalizing start with
  | nil =>
    constructor
    · intro h
      exact ⟨entries, [], h, rfl, rfl⟩
    · rintro ⟨base, ls, rfl, hls, rfl⟩
      rw [List.map_eq_nil_iff.1 hls.symm]
      rfl
  | cons layer rest ih =>
    rw [List.foldl_cons, ih]
    constructor
    · rintro ⟨base, ls, hadd, rfl, rfl⟩
      cases start <;> cases layer <;> cases hadd
      exact ⟨_, _ :: ls, rfl, rfl, rfl⟩
    · rintro ⟨base, ls, rfl, hls, rfl⟩
      obtain ⟨l, ls, rfl, rfl, rfl⟩ := List.map_eq_cons_iff.1 hls.symm
      exact ⟨_, ls, rfl, rfl, rfl⟩

theorem ofLayers_eq_ok_iff {layers : List (Except LayerFault Layer)} {s : Settings} :
    ofLayers layers = .ok s ↔
      ∃ ls : List Layer, layers = ls.map .ok ∧
        decode .layered (.table none (ls.foldl layEntries defaultLayer)) = .ok s := by
  unfold ofLayers
  simp only [Except.bind_eq_ok_iff, Except.mapError_eq_ok_iff]
  constructor
  · rintro ⟨entries, hlaid, hdecode⟩
    obtain ⟨base, ls, hbase, hls, rfl⟩ := foldl_layAll_eq_ok_iff.1 hlaid
    cases hbase
    exact ⟨ls, hls, hdecode⟩
  · rintro ⟨ls, hls, hdecode⟩
    exact ⟨_, foldl_layAll_eq_ok_iff.2 ⟨_, ls, rfl, hls, rfl⟩, hdecode⟩

theorem layerOf_eq_ok_iff {o : Origin} {toml : String} {layer : Layer} :
    layerOf o toml = .ok layer ↔
      ∃ entries, Toml.read toml.toList = some entries ∧ ofEntries? o entries = some layer := by
  unfold layerOf
  rw [← Option.bind_eq_some_iff]
  cases (Toml.read toml.toList).bind (ofEntries? o) with
  | none => exact ⟨nofun, nofun⟩
  | some entries => simp [pure, Except.pure]

/-- In a layer keys are in order and hold something. -/
def Proper (layer : Layer) : Prop := Ordered layer ∧ FilledEntries layer

theorem proper_layerOf {o : Origin} {toml : String} {layer : Layer} (h : layerOf o toml = .ok layer) :
    Proper layer := by
  obtain ⟨entries, -, hentries⟩ := layerOf_eq_ok_iff.1 h
  exact ⟨ordered_ofEntries? hentries, filledEntries_of_ofEntries? entries hentries⟩

theorem proper_fileLayer {files : FileTree} {p : Path} {layer : Layer}
    (h : fileLayer files p = .ok layer) : Proper layer := by
  unfold fileLayer at h
  split at h
  · cases h
    exact ⟨Keyed.ordered_nil, trivial⟩
  · split at h
    · cases h
    · exact proper_layerOf h

end PluginHost.Settings
