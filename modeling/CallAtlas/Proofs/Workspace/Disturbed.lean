import CallAtlas.Proofs.Workspace.Keeping
import CallAtlas.Proofs.Workspace.Store

/-!
# Saving that fails

Each of the three steps of saving may fail at any moment: some directories may have been made, and a
part of the draft may have been written. Whatever fails, the model that was there before is loaded
afterwards, if the path ends in a name and has no segment that is too long.
-/

namespace CallAtlas

open CallAtlas.Path

namespace ModelFile

/-! ## Saving with faults -/

/-- What goes wrong while a document is saved. -/
structure Faults where
  /-- Making the directory fails after a number of directories were made. -/
  directory : Option (ℕ × Failure) := none
  /-- Writing the draft fails, before there is one or when it has some content. -/
  draft : Option (Option Text × Failure) := none
  /-- Moving the draft to its place fails, and moves nothing. -/
  move : Option Failure := none

/-- A change of the files that fails with a fault, which leaves other files behind. -/
def disturbed (fault : Workspace → Option (FileSystem × Failure))
    (f : Workspace → Except Failure FileSystem) : Job Workspace Unit := do
  match fault (← Job.world) with
  | none => alter f
  | some (files, failure) =>
    Job.change fun w => { w with files }
    Job.throw (.ofKind .persistence (Text.ofString "Cannot write model: " ++ failure.message))

/-- Makes the directory of a path, with faults. -/
def makeWith (faults : Faults) (path : Text) : Job Workspace Unit :=
  let directory := directoryOf path
  disturbed
    (fun w => faults.directory.map fun f => (w.files.makeFirst f.1 (w.absolute directory), f.2))
    fun w => w.files.makeDirectory (w.absolute directory) directory

/-- Writes a draft, with faults. -/
def writeWith (faults : Faults) (draft : Text) (document : Json) : Job Workspace Unit :=
  disturbed
    (fun w => faults.draft.map fun f =>
      (f.1.elim w.files (w.files.leave (w.absolute draft)), f.2))
    fun w => w.files.write (w.absolute draft) draft (RepoModel.documentText document)

/-- Moves a draft to its place, with faults. -/
def moveWith (faults : Faults) (draft path : Text) : Job Workspace Unit :=
  disturbed (fun w => faults.move.map fun f => (w.files, f))
    fun w => w.files.rename (w.absolute draft) (w.absolute path) draft path

/-- Saves a document in a file, with faults. -/
def saveDocumentWith (faults : Faults) (path : Text) (document : Json) (fileCount : ℕ) :
    Job Workspace Unit := do
  let draft := temporary path (← Job.host).process
  makeWith faults path
  writeWith faults draft document
  moveWith faults draft path
  Job.note .debug "Saved model" [("path", .str path), ("files", Json.ofNat fileCount)]

/-- Saves a model in a file, with faults. -/
def saveWith (faults : Faults) (path : Text) (model : RepoModel) (metadata : RepoMetadata) :
    Job Workspace Unit :=
  saveDocumentWith faults path (model.toDocument metadata) model.files.length

lemma disturbed_none (f : Workspace → Except Failure FileSystem) :
    disturbed (fun _ => none) f = alter f := rfl

/-- Without faults, a model is saved as ever. -/
theorem saveWith_none : saveWith {} = save := by
  funext path model metadata
  simp only [saveWith, saveDocumentWith, makeWith, writeWith, moveWith, Option.map_none,
    disturbed_none]
  rfl

/-- A change that may be disturbed succeeds, or it throws and leaves behind what its fault does. -/
lemma run_disturbed {fault : Workspace → Option (FileSystem × Failure)}
    {f : Workspace → Except Failure FileSystem} {s t : Session Workspace} {o : Outcome Unit}
    (h : (disturbed fault f).run s = (o, t)) :
    (o = .ok () ∧ ∃ files, f s.world = .ok files ∧ t = { s with world := { s.world with files } })
    ∨ t = s
    ∨ ∃ files failure, fault s.world = some (files, failure)
      ∧ t = { s with world := { s.world with files } } := by
  have hworld : Job.world.run s = (.ok s.world, s) := rfl
  rw [disturbed, Job.run_bind, hworld] at h
  simp only at h
  split at h
  · cases o with
    | ok u => exact .inl ⟨rfl, run_alter_eq_ok h⟩
    | error thrown =>
      rw [alter, Job.run_bind, hworld] at h
      simp only at h
      split at h
      · cases h
      · cases h
        exact .inr (.inl rfl)
  · next files failure hfault =>
    cases h
    exact .inr (.inr ⟨files, failure, hfault, rfl⟩)

/-- Between two sessions a place has stayed as it is, no directory went away, and the host and the
present directory are the same. -/
structure Keeps (place : Text) (s t : Session Workspace) : Prop where
  host : t.host = s.host
  directory : t.world.directory = s.world.directory
  files : FileSystem.Keeps place s.world.files t.world.files
  grows : FileSystem.Grows s.world.files t.world.files

lemma Keeps.trans {place : Text} {s t u : Session Workspace} (h : Keeps place s t)
    (h' : Keeps place t u) : Keeps place s u :=
  ⟨h'.host.trans h.host, h'.directory.trans h.directory, h.files.trans h'.files,
    h.grows.trans h'.grows⟩

/-- A change that may be disturbed keeps a place if it does so where it succeeds, and if its fault
does so. -/
lemma keeps_of_disturbed {fault : Workspace → Option (FileSystem × Failure)}
    {f : Workspace → Except Failure FileSystem} {s t : Session Workspace} {o : Outcome Unit}
    {place : Text} (h : (disturbed fault f).run s = (o, t))
    (hok : o = .ok () → ∀ files, f s.world = .ok files →
      FileSystem.Keeps place s.world.files files ∧ FileSystem.Grows s.world.files files)
    (hfault : ∀ files failure, fault s.world = some (files, failure) →
      FileSystem.Keeps place s.world.files files ∧ FileSystem.Grows s.world.files files) :
    Keeps place s t := by
  rcases run_disturbed h with ⟨ho, files, hfiles, rfl⟩ | rfl | ⟨files, failure, hfiles, rfl⟩
  · exact ⟨rfl, rfl, (hok ho files hfiles).1, (hok ho files hfiles).2⟩
  · exact ⟨rfl, rfl, .refl _ _, .refl _⟩
  · exact ⟨rfl, rfl, (hfault files failure hfiles).1, (hfault files failure hfiles).2⟩

variable {path process : Text}

/-- A path is not on the way to its directory, and its draft is neither on the way to the path nor
the path itself. -/
lemma exists_segments (w : Workspace) (hname : baseName path ∉ [[], here, up])
    (hprocess : Text.slash ∉ process) :
    ∃ segments, (∀ s ∈ segments ++ [baseName path], IsSegment s)
      ∧ w.absolute path = ofSegments (segments ++ [baseName path])
      ∧ w.absolute (directoryOf path) = ofSegments segments
      ∧ w.absolute path ∉ FileSystem.above (ofSegments segments) ++ [ofSegments segments]
      ∧ w.absolute (temporary path process) ∉ FileSystem.above (w.absolute path)
      ∧ w.absolute (temporary path process) ≠ w.absolute path := by
  obtain ⟨segments, draft, hpath, hdraft, hne, hother, hplace, hdirectory, htemporary⟩ :=
    exists_places w.directory hname hprocess
  have hsegments : ∀ s ∈ segments, IsSegment s := fun s hs => hpath s (List.mem_append_left _ hs)
  have hpos : 0 < draft.length := List.length_pos_iff.mpr hne
  have hlonger : segments.length < (segments ++ [baseName path]).length := by
    rw [List.length_append]
    exact Nat.lt_add_of_pos_right Nat.one_pos
  -- Places are told apart by the numbers of segments that lead to them.
  refine ⟨segments, hpath, hplace, hdirectory, ?_, ?_, ?_⟩
  · rw [Workspace.absolute, hplace, List.mem_append, List.mem_singleton, not_or]
    refine ⟨FileSystem.ofSegments_notMem_above hsegments hpath hlonger.le, ?_⟩
    intro heq
    exact hlonger.ne' (congrArg List.length (ofSegments_inj hpath hsegments heq))
  · rw [Workspace.absolute, Workspace.absolute, hplace, htemporary]
    apply FileSystem.ofSegments_notMem_above hpath hdraft
    rw [List.length_append, List.length_append, List.length_singleton]
    exact Nat.add_le_add_left hpos _
  · rw [Workspace.absolute, Workspace.absolute, hplace, htemporary]
    intro heq
    exact hother (List.append_cancel_left (ofSegments_inj hdraft hpath heq))

/-- Making the directory of a path keeps the path, whether it fails or not. -/
lemma keeps_of_makeWith {faults : Faults} {s t : Session Workspace} {o : Outcome Unit}
    {segments : List Text} (hsound : s.world.files.Sound) (hsegments : ∀ x ∈ segments, IsSegment x)
    (hdirectory : s.world.absolute (directoryOf path) = ofSegments segments)
    (hbelow : s.world.absolute path ∉ FileSystem.above (ofSegments segments)
      ++ [ofSegments segments])
    (hshort : ∀ d ∈ FileSystem.above (ofSegments segments) ++ [ofSegments segments],
      FileSystem.isTooLong d = false)
    (h : (makeWith faults path).run s = (o, t)) : Keeps (s.world.absolute path) s t := by
  apply keeps_of_disturbed h
  · intro _ files hfiles
    rw [hdirectory] at hfiles
    exact ⟨FileSystem.keeps_of_makeDirectory hsound hsegments hbelow hfiles,
      FileSystem.grows_of_makeDirectory hsound hsegments hshort hfiles⟩
  · intro files failure hfault
    obtain ⟨f, -, hf⟩ := Option.map_eq_some_iff.mp hfault
    rw [← (Prod.mk.inj hf).1, hdirectory]
    exact ⟨FileSystem.keeps_makeFirst f.1 hbelow, FileSystem.grows_makeFirst hsegments f.1⟩

/-- Writing a draft keeps all places that it is not on the way to, whether it fails or not. -/
lemma keeps_of_writeWith {faults : Faults} {draft place : Text} {document : Json}
    {s t : Session Workspace} {o : Outcome Unit}
    (haside : s.world.absolute draft ∉ FileSystem.above place)
    (hapart : s.world.absolute draft ≠ place)
    (h : (writeWith faults draft document).run s = (o, t)) : Keeps place s t := by
  apply keeps_of_disturbed h
  · intro _ files hfiles
    obtain ⟨hfree, rfl⟩ := FileSystem.of_write_eq_ok hfiles
    exact ⟨FileSystem.keeps_put (FileSystem.ne_root_of_node? hfree) hapart haside,
      FileSystem.grows_put hfree⟩
  · intro files failure hfault
    obtain ⟨⟨content, _⟩, -, hf⟩ := Option.map_eq_some_iff.mp hfault
    rw [← (Prod.mk.inj hf).1]
    cases content with
    | none => exact ⟨.refl _ _, .refl _⟩
    | some content => exact ⟨FileSystem.keeps_leave hapart haside, FileSystem.grows_leave⟩

/-- A draft that is not moved is all that there is of a new model. -/
lemma keeps_of_moveWith {faults : Faults} {draft place : Text} {s t : Session Workspace}
    {thrown : Thrown} (h : (moveWith faults draft path).run s = (.error thrown, t)) :
    Keeps place s t := by
  apply keeps_of_disturbed h (fun hok => nomatch hok)
  intro files failure hfault
  obtain ⟨f, -, hf⟩ := Option.map_eq_some_iff.mp hfault
  rw [← (Prod.mk.inj hf).1]
  exact ⟨.refl _ _, .refl _⟩

/-- Saving that throws keeps the path of the model. -/
theorem keeps_of_saveWith {faults : Faults} {m : RepoModel} {md : RepoMetadata}
    {s t : Session Workspace} {thrown : Thrown} (hname : baseName path ∉ [[], here, up])
    (hshort : ∀ d ∈ FileSystem.above (s.world.absolute path) ++ [s.world.absolute path],
      FileSystem.isTooLong d = false)
    (hprocess : Text.slash ∉ s.host.process) (hsound : s.world.files.Sound)
    (h : (saveWith faults path m md).run s = (.error thrown, t)) :
    Keeps (s.world.absolute path) s t := by
  obtain ⟨segments, hsegments, hplace, hdirectory, hbelow, haside, hapart⟩ :=
    exists_segments s.world hname hprocess
  have hshortWay : ∀ d ∈ FileSystem.above (ofSegments segments) ++ [ofSegments segments],
      FileSystem.isTooLong d = false := by
    intro d hd
    by_cases hroot : d = [Text.slash]
    · rw [hroot]
      rfl
    · apply hshort d
      rw [hplace]
      exact List.mem_append_left _ (FileSystem.mem_above_of_mem hsegments hroot hd)
  have hmake : ∀ {o u}, (makeWith faults path).run s = (o, u) →
      Keeps (s.world.absolute path) s u := fun h =>
    keeps_of_makeWith hsound (fun x hx => hsegments x (List.mem_append_left _ hx)) hdirectory
      hbelow hshortWay h
  have hwrite : ∀ {o u v}, Keeps (s.world.absolute path) s u →
      (writeWith faults (temporary path s.host.process) (m.toDocument md)).run u = (o, v) →
      Keeps (s.world.absolute path) s v := by
    intro o u v hu h
    have hdraft : u.world.absolute (temporary path s.host.process)
        = s.world.absolute (temporary path s.host.process) := by
      rw [Workspace.absolute, hu.directory]
      rfl
    exact hu.trans (keeps_of_writeWith (by rwa [hdraft]) (by rwa [hdraft]) h)
  have hhost : Job.host.run s = (.ok s.host, s) := rfl
  rw [saveWith, saveDocumentWith, Job.run_bind, hhost] at h
  simp only at h
  -- Whichever step throws, the path was kept by the steps before it.
  rcases Job.run_bind_eq_error h with hthrown | ⟨⟨⟩, u, hmade, h⟩
  · exact hmake hthrown
  rcases Job.run_bind_eq_error h with hthrown | ⟨⟨⟩, v, hwritten, h⟩
  · exact hwrite (hmake hmade) hthrown
  rcases Job.run_bind_eq_error h with hthrown | ⟨⟨⟩, w, -, hnote⟩
  · exact (hwrite (hmake hmade) hwritten).trans (keeps_of_moveWith hthrown)
  · cases hnote

/-- A model that could not be saved leaves the one that was there to be loaded. -/
theorem loaded_of_saveWith {faults : Faults} {m : RepoModel} {md : RepoMetadata}
    {s t : Session Workspace} {thrown : Thrown} (hname : baseName path ∉ [[], here, up])
    (hshort : ∀ d ∈ FileSystem.above (s.world.absolute path) ++ [s.world.absolute path],
      FileSystem.isTooLong d = false)
    (hprocess : Text.slash ∉ s.host.process) (hsound : s.world.files.Sound)
    (h : (saveWith faults path m md).run s = (.error thrown, t)) :
    loaded t.world path = loaded s.world path := by
  have hkeeps := keeps_of_saveWith hname hshort hprocess hsound h
  obtain ⟨segments, hsegments, hplace, -⟩ := exists_segments s.world hname hprocess
  have hread : t.world.read path = s.world.read path := by
    have hplaced : t.world.absolute path = s.world.absolute path := by
      rw [Workspace.absolute, hkeeps.directory]
      rfl
    rw [hplace] at hshort hkeeps
    rw [Workspace.read, Workspace.read, hplaced, hplace]
    exact hkeeps.files.read_eq hsound hsegments hshort
  rw [loaded, loaded, hread]

end ModelFile

end CallAtlas
