import PluginHost.Proofs.Cache.Transparency

/-!
Whose path and provider a definition bears that a discovery with a shared cache answers. It always
belongs to a file of the discovery's own scan and has the provider of that scan; but a kept
definition keeps the path under which some discovery scanned the file before, and that need not be
a path to the file any more.
-/
namespace PluginHost.SharedCache

variable (c : SharedCache)

def after : Workspace → List RunStep → Workspace
  | w, [] => w
  | w, .change alter :: rest => after { w with files := alter w.files } rest
  | w, .ask question :: rest => after ((c.discovery question).definitions.after w) rest

/-- The definition bears the provider and, whatever its spelling, the path of a scanned file. -/
def OwnOrigin (found : ScanResult) (d : Definition) : Prop :=
  ∃ f ∈ found, d.provider = f.provider ∧
    ∃ source, d.source = some source ∧ source.same f.path = true

/-- The definition bears another path than the scanned file: that under which an earlier question
scanned the same place, or one that is shown alike, for the same provider and at the same time of the
file. -/
def AliasedOrigin (asked : List (FileTree × Question)) (files : FileTree) (found : ScanResult)
    (d : Definition) : Prop :=
  ∃ f ∈ found, d.provider = f.provider ∧
    ∃ q ∈ asked, ∃ g ∈ (c.discovery q.2).scanned q.1, g.provider = f.provider ∧
      d.source = some g.path ∧ g.path.same f.path = false ∧
      (∃ before now, q.1.canonical g.path = some before ∧ files.canonical f.path = some now ∧
        before.ShownAlike now) ∧
      q.1.modified? g.path = files.modified? f.path

variable {c} {asked : List (FileTree × Question)} {question : Question} {w : Workspace}

theorem Sound.mono {more : List (FileTree × Question)} {store : CacheStore}
    (h : c.Sound asked store) (hmore : ∀ q ∈ asked, q ∈ more) : c.Sound more store := by
  intro key stored hget
  obtain ⟨q, hq, rest⟩ := h key stored hget
  exact ⟨q, hmore q hq, rest⟩

theorem sound_after {steps : List RunStep} (hasked : ∀ q ∈ questions w.files steps, q ∈ asked)
    (hsound : c.Sound asked w.store) : c.Sound asked (c.after w steps).store := by
  induction steps generalizing w with
  | nil => exact hsound
  | cons step rest ih =>
    cases step with
    | change alter => exact ih hasked hsound
    | ask question =>
      obtain ⟨hnow, hlater⟩ := List.forall_mem_cons.1 hasked
      obtain ⟨t, ht, hfiles, hsoundAfter⟩ := outcome_definitions_of_sound hnow hsound
      have hafter : (c.discovery question).definitions.after w = t := congrArg Prod.snd ht
      unfold after
      rw [hafter]
      exact ih (hfiles ▸ hlater) hsoundAfter

theorem ownOrigin_of_holds {d : DirectoryDiscovery} {files : FileTree} {found : ScanResult}
    {f : ScannedFile} {definition : Definition} (hf : f ∈ found)
    (h : d.Holds files f (.definition definition)) : OwnOrigin found definition := by
  obtain ⟨hprovider, hsource⟩ := DirectoryDiscovery.provider_source_of_holds h
  exact ⟨f, hf, hprovider, f.path, hsource, by simp [Path.same]⟩

theorem origin_of_fitting (hsound : c.Sound asked w.store) {f : ScannedFile} {found : ScanResult}
    (hf : f ∈ found) {definition : Definition}
    (h : DirectoryDiscovery.fitting c.suffix w f = some (.definition definition)) :
    OwnOrigin found definition ∨ c.AliasedOrigin asked w.files found definition := by
  obtain ⟨hvalid, hfits⟩ := DirectoryDiscovery.fitting_eq_some_iff.1 h
  have hprovider : definition.provider = f.provider := of_decide_eq_true hfits
  obtain ⟨q, hq, g, hg, hholds, modified, place, placeThen, hnow, hthen, hplace, hplaceThen, hkey⟩ :=
    hsound.origin_of_valid hvalid
  obtain ⟨hproviderThen, hsource⟩ := DirectoryDiscovery.provider_source_of_holds hholds
  cases hsame : g.path.same f.path with
  | true => exact .inl ⟨f, hf, hprovider, g.path, hsource, hsame⟩
  | false =>
    have hshown : ∃ before now, q.1.canonical g.path = some before ∧
        w.files.canonical f.path = some now ∧ before.ShownAlike now := by
      unfold FileTree.canonical
      rw [hplaceThen, hplace]
      exact ⟨_, _, rfl, rfl, DefinitionCache.keyAt_eq_iff.1 hkey⟩
    exact .inr ⟨f, hf, hprovider, q, hq, g, hg, hproviderThen.symm.trans hprovider, hsource, hsame,
      hshown, hthen.trans hnow.symm⟩

/-- In a run over a store that is empty in the beginning, a definition that a question is answered
with bears the provider and the path of a file of that question's own scan; or else it comes from a
file of that scan which an earlier question scanned under another path, and bears that path. -/
theorem ownOrigin_or_aliasedOrigin (c : SharedCache) (files : FileTree) (earlier : List RunStep)
    (question : Question) (all : DefinitionMap) (id : String) (definition : Definition)
    (hall : (c.discovery question).definitions.result (c.after { files } earlier) = .ok all)
    (hdefinition : all.get? id = some definition) :
    let now := (c.after { files } earlier).files
    let found := (c.discovery question).scanned now
    OwnOrigin found definition ∨ c.AliasedOrigin (questions files earlier) now found definition := by
  intro now found
  have hsound : c.Sound (questions files earlier) (c.after { files } earlier).store := by
    apply sound_after (fun q hq => hq)
    intro key stored hget
    cases hget
  obtain ⟨t, hanswer, -⟩ := outcome_definitions_of_sound
    (List.mem_append_right (questions files earlier) (List.mem_singleton.2 rfl))
    (hsound.mono fun q hq => List.mem_append_left [(now, question)] hq)
  have hcollect := (congrArg Prod.fst hanswer).symm.trans hall
  rcases DirectoryDiscovery.exists_entry_of_get?_collectEntries hcollect hdefinition with
    hempty | ⟨f, hf, hentry⟩
  · cases hempty
  · unfold DirectoryDiscovery.entryGiven at hentry
    split at hentry
    · next entry hhit =>
      cases hentry
      exact origin_of_fitting hsound hf (DirectoryDiscovery.fitting_of_fittingHit hf hhit)
    · exact .inl (ownOrigin_of_holds hf (DirectoryDiscovery.holds_iff_readEntry.2 hentry))

/-! A link that leads to one directory when its files are read, and to another one afterwards. -/

def linkedFiles : FileTree :=
  FileTree.bare
    |>.write ⟨"a/x.yml"⟩ "id: x\n".toUTF8 5
    |>.write ⟨"b/x.yml"⟩ "id: y\n".toUTF8 5
    |>.makeLink ⟨"a"⟩ ⟨"link"⟩

def linkElsewhere (files : FileTree) : FileTree :=
  (files.remove ⟨"link"⟩).makeLink ⟨"b"⟩ ⟨"link"⟩

def questionOf (directory : String) : Question where
  directories := { entries := [("core", [⟨directory⟩])] }
  scanner := { suffix := ".yml" }

def linkedRun : List RunStep := [.ask (questionOf "link"), .change linkElsewhere]

theorem scanned_after_linkedRun :
    (sampleCache.discovery (questionOf "a")).scanned
      (sampleCache.after { files := linkedFiles } linkedRun).files = [⟨⟨"a/x.yml"⟩, "core"⟩] := by
  decide +kernel

theorem exists_definition_after_linkedRun :
    ∃ all definition, (sampleCache.discovery (questionOf "a")).definitions.result
        (sampleCache.after { files := linkedFiles } linkedRun) = .ok all ∧
      all.get? "x" = some definition ∧ definition.source = some ⟨"link/x.yml"⟩ := by
  have hsource : (((sampleCache.discovery (questionOf "a")).definitions.result
      (sampleCache.after { files := linkedFiles } linkedRun)).toOption.bind fun all =>
        (all.get? "x").bind Definition.source) = some ⟨"link/x.yml"⟩ := by
    decide +kernel
  obtain ⟨all, hall, hget⟩ := Option.bind_eq_some_iff.1 hsource
  obtain ⟨definition, hdefinition, hpath⟩ := Option.bind_eq_some_iff.1 hget
  refine ⟨all, definition, ?_, hdefinition, hpath⟩
  cases hresult : (sampleCache.discovery (questionOf "a")).definitions.result
      (sampleCache.after { files := linkedFiles } linkedRun) with
  | ok answer =>
    rw [hresult] at hall
    cases hall
    rfl
  | error e =>
    rw [hresult] at hall
    cases hall

theorem not_ownOrigin_of_linkedRun {definition : Definition}
    (h : definition.source = some ⟨"link/x.yml"⟩) :
    ¬OwnOrigin ((sampleCache.discovery (questionOf "a")).scanned
      (sampleCache.after { files := linkedFiles } linkedRun).files) definition := by
  rw [scanned_after_linkedRun]
  rintro ⟨f, hf, -, source, hsource, hsame⟩
  cases List.mem_singleton.1 hf
  cases h.symm.trans hsource
  revert hsame
  decide +kernel

/-- The definition bears the path of the link, which by then leads to another file. -/
theorem linkedRun_aliasedOrigin :
    ∃ all definition, (sampleCache.discovery (questionOf "a")).definitions.result
        (sampleCache.after { files := linkedFiles } linkedRun) = .ok all ∧
      all.get? "x" = some definition ∧
      sampleCache.AliasedOrigin (questions linkedFiles linkedRun)
        (sampleCache.after { files := linkedFiles } linkedRun).files
        ((sampleCache.discovery (questionOf "a")).scanned
          (sampleCache.after { files := linkedFiles } linkedRun).files) definition := by
  obtain ⟨all, definition, hall, hdefinition, hsource⟩ := exists_definition_after_linkedRun
  refine ⟨all, definition, hall, hdefinition, ?_⟩
  exact (ownOrigin_or_aliasedOrigin sampleCache linkedFiles linkedRun (questionOf "a") all "x"
    definition hall hdefinition).resolve_left (not_ownOrigin_of_linkedRun hsource)

/-- A definition does not always bear a path of the discovery's own scan. -/
theorem not_always_ownOrigin :
    ¬∀ (c : SharedCache) (files : FileTree) (earlier : List RunStep) (question : Question)
      (all : DefinitionMap) (id : String) (definition : Definition),
      (c.discovery question).definitions.result (c.after { files } earlier) = .ok all →
      all.get? id = some definition →
      OwnOrigin ((c.discovery question).scanned (c.after { files } earlier).files) definition := by
  intro h
  obtain ⟨all, definition, hall, hdefinition, hsource⟩ := exists_definition_after_linkedRun
  exact not_ownOrigin_of_linkedRun hsource
    (h sampleCache linkedFiles linkedRun (questionOf "a") all "x" definition hall hdefinition)

end PluginHost.SharedCache
