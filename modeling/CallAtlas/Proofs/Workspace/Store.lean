import CallAtlas.Proofs.Model.Stored
import CallAtlas.Proofs.Session.Reading
import CallAtlas.Proofs.Workspace.Files
import CallAtlas.Workspace.Store

/-!
# What a saved model is loaded as

Saving makes the directory, writes a draft and moves it to its place, and changes nothing but the
files. A storable model is loaded afterwards as it was saved, with its metadata.
-/

namespace CallAtlas

namespace ModelFile

/-! ## Loading -/

/-- What loading a model gives. -/
def loaded (w : Workspace) (path : Text) : Outcome (Option PersistedModel) :=
  match w.read path with
  | .error f =>
    if f.codeText = some (Text.ofString FileFault.missing.code) then .ok none
    else .error (persistenceFailure (Text.ofString "Cannot read model") f.message)
  | .ok text => (decode text).bind fun m => .ok (some m)

/-- Loading a model changes nothing but the log. -/
theorem load_reads (path : Text) : Job.Reads (load path) fun _ w _ => loaded w path := by
  refine Job.Reads.world.bind (g := fun w _ _ _ => loaded w path) fun w => ?_
  unfold loaded
  cases w.read path with
  | ok text =>
    exact (Job.Reads.ofOutcome (decode text)).bind fun m => .behind (.note _ _ _) (.give _)
  | error f =>
    simp only
    by_cases hmissing : f.codeText = some (Text.ofString FileFault.missing.code)
    · rw [if_pos hmissing, if_pos hmissing]
      exact .give _
    · rw [if_neg hmissing, if_neg hmissing]
      exact .throw _

/-- The text of the document of a storable model is decoded as the model with its metadata. -/
theorem decode_documentText {m : RepoModel} (h : m.IsStorable) (md : RepoMetadata) :
    decode (RepoModel.documentText (m.toDocument md)) = .ok ⟨md, m⟩ := by
  rw [decode, h.parse?_documentText md]
  simp only [Stored.decode_toDocument h md]

/-! ## Saving -/

/-- A change of the files that succeeds changes nothing else. -/
lemma run_alter_eq_ok {f : Workspace → Except Failure FileSystem} {s t : Session Workspace}
    (h : (alter f).run s = (.ok (), t)) :
    ∃ files, f s.world = .ok files ∧ t = { s with world := { s.world with files } } := by
  obtain ⟨w, u, hworld, hrest⟩ := Job.run_bind_eq_ok h
  cases hworld
  cases hf : f s.world with
  | error failure =>
    simp only [hf] at hrest
    cases hrest
  | ok files =>
    simp only [hf] at hrest
    cases hrest
    exact ⟨files, rfl, rfl⟩

lemma run_alter_of_eq_ok {f : Workspace → Except Failure FileSystem} {s : Session Workspace}
    {files : FileSystem} (h : f s.world = .ok files) :
    (alter f).run s = (.ok (), { s with world := { s.world with files } }) := by
  have hworld : Job.world.run s = (.ok s.world, s) := rfl
  rw [alter, Job.run_bind, hworld]
  simp only [h]
  rfl

/-- The three steps of a document that was saved. -/
theorem exists_steps {path : Text} {document : Json} {count : ℕ} {s t : Session Workspace}
    (h : (saveDocument path document count).run s = (.ok (), t)) :
    ∃ made written moved,
      s.world.files.makeDirectory (s.world.absolute (directoryOf path)) (directoryOf path)
        = .ok made
      ∧ made.write (s.world.absolute (temporary path s.host.process))
          (temporary path s.host.process) (RepoModel.documentText document) = .ok written
      ∧ written.rename (s.world.absolute (temporary path s.host.process)) (s.world.absolute path)
          (temporary path s.host.process) path = .ok moved
      ∧ t.world = { s.world with files := moved } ∧ t.host = s.host ∧ t.registry = s.registry := by
  obtain ⟨host, u, hhost, h⟩ := Job.run_bind_eq_ok h
  cases hhost
  obtain ⟨⟨⟩, u₁, hfirst, h⟩ := Job.run_bind_eq_ok h
  obtain ⟨made, hmade, rfl⟩ := run_alter_eq_ok hfirst
  obtain ⟨⟨⟩, u₂, hsecond, h⟩ := Job.run_bind_eq_ok h
  obtain ⟨written, hwritten, rfl⟩ := run_alter_eq_ok hsecond
  obtain ⟨⟨⟩, u₃, hthird, h⟩ := Job.run_bind_eq_ok h
  obtain ⟨moved, hmoved, rfl⟩ := run_alter_eq_ok hthird
  cases h
  exact ⟨made, written, moved, hmade, hwritten, hmoved, rfl, rfl, rfl⟩

/-- A document is saved if its three steps succeed. -/
lemma exists_saveDocument {path : Text} {document : Json} {s : Session Workspace}
    {made written moved : FileSystem}
    (hmade : s.world.files.makeDirectory (s.world.absolute (directoryOf path)) (directoryOf path)
      = .ok made)
    (hwritten : made.write (s.world.absolute (temporary path s.host.process))
      (temporary path s.host.process) (RepoModel.documentText document) = .ok written)
    (hmoved : written.rename (s.world.absolute (temporary path s.host.process))
      (s.world.absolute path) (temporary path s.host.process) path = .ok moved) (count : ℕ) :
    ∃ t, (saveDocument path document count).run s = (.ok (), t) := by
  have hhost : Job.host.run s = (.ok s.host, s) := rfl
  rw [saveDocument, Job.run_bind, hhost]
  simp only
  rw [Job.run_bind, run_alter_of_eq_ok hmade]
  simp only
  rw [Job.run_bind, run_alter_of_eq_ok hwritten]
  simp only
  rw [Job.run_bind, run_alter_of_eq_ok hmoved]
  exact ⟨_, rfl⟩

/-- A well-formed text is read from a file as it was written. -/
lemma wellFormed_documentText (document : Json) :
    FileSystem.wellFormed (RepoModel.documentText document) = RepoModel.documentText document := by
  apply Text.WellFormed.ofString_toString
  exact (Json.wellFormed_render _ _ _ .nil).append
    (.of_forall (List.forall_mem_singleton.mpr (by decide)))

/-- A saved model is loaded as the text of its document is decoded. -/
lemma loaded_eq_decode {path : Text} {m : RepoModel} {md : RepoMetadata} {s t : Session Workspace}
    (h : (save path m md).run s = (.ok (), t)) :
    loaded t.world path
      = (decode (RepoModel.documentText (m.toDocument md))).bind fun stored =>
          .ok (some stored) := by
  obtain ⟨made, written, moved, -, hwritten, hmoved, hworld, -, -⟩ := exists_steps h
  have hread := FileSystem.read_of_write_of_rename hwritten hmoved
  rw [wellFormed_documentText] at hread
  have htext : t.world.read path = .ok (RepoModel.documentText (m.toDocument md)) := by
    rw [hworld]
    exact hread
  simp only [loaded, htext]

/-- A storable model that was saved is loaded as it is, with its metadata. -/
theorem loaded_of_saved {path : Text} {m : RepoModel} (hm : m.IsStorable) {md : RepoMetadata}
    {s t : Session Workspace} (h : (save path m md).run s = (.ok (), t)) :
    loaded t.world path = .ok (some ⟨md, m⟩) := by
  rw [loaded_eq_decode h, decode_documentText hm md]
  rfl

/-- A model can be saved under a path: the directory of the path is there, and the path and that of
the draft lead to a file or nowhere. -/
structure IsWritable (w : Workspace) (path draft : Text) : Prop where
  directory : w.files.node? (w.absolute (directoryOf path)) = some .directory
  zero_notMem : ∀ p ∈ [directoryOf path, path, draft], (0 : CodeUnit) ∉ p
  blocked?_eq : ∀ p ∈ [directoryOf path, path, draft], w.files.blocked? (w.absolute p) = none
  noSlash : ∀ p ∈ [path, draft], Path.hasTrailingSlash p = false
  noDirectory : ∀ p ∈ [path, draft], w.files.node? (w.absolute p) ≠ some .directory

/-- A model is saved where it can be, whatever it is. -/
theorem exists_save {path : Text} {s : Session Workspace}
    (h : IsWritable s.world path (temporary path s.host.process)) (m : RepoModel)
    (md : RepoMetadata) : ∃ t, (save path m md).run s = (.ok (), t) := by
  obtain ⟨hdirectory, hzero, hblocked, hslash, hplace⟩ := h
  simp only [List.forall_mem_cons, List.not_mem_nil, false_imp_iff, forall_true_iff, and_true]
    at hzero hblocked hslash hplace
  obtain ⟨hzeroDirectory, hzeroPath, hzeroDraft⟩ := hzero
  obtain ⟨hblockedDirectory, hblockedPath, hblockedDraft⟩ := hblocked
  have hdraftRoot := FileSystem.ne_root_of_node? hplace.2
  have hkeep : ∀ d, s.world.files.node? d = some .directory → (FileSystem.mk (FileSystem.put
      (s.world.absolute (temporary path s.host.process)) (.file (FileSystem.wellFormed
        (RepoModel.documentText (m.toDocument md)))) s.world.files.nodes)).node? d
        = some .directory := FileSystem.node?_put_of_directory hplace.2
  apply exists_saveDocument
  · exact FileSystem.makeDirectory_eq_self hzeroDirectory hblockedDirectory hdirectory
  · exact FileSystem.write_eq_ok hzeroDraft hblockedDraft hplace.2 hslash.2
  · apply FileSystem.rename_eq_ok hzeroDraft hzeroPath
      (FileSystem.blocked?_eq_none_mono hblockedDraft hkeep)
      (FileSystem.blocked?_eq_none_mono hblockedPath hkeep) ?_ ?_ hslash.1
    · exact FileSystem.wellFormed (RepoModel.documentText (m.toDocument md))
    · rw [FileSystem.node?_put hdraftRoot, if_pos rfl]
    · rw [FileSystem.node?_put hdraftRoot]
      split
      · exact fun h => nomatch h
      · exact hplace.1

end ModelFile

end CallAtlas
