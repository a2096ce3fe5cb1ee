import CallAtlas.Proofs.Generation.Storable
import CallAtlas.Proofs.Sync.Conduct
import CallAtlas.Proofs.Sync.Leaving
import CallAtlas.Proofs.Workspace.Disturbed
import CallAtlas.Proofs.Workspace.Followed

/-!
# What a refresh leaves to be loaded

Where all but the store leave the files as they are, a refresh changes them by saving alone. So
whenever it throws, is cancelled or uses the stored model again, the same model is loaded afterwards
as before, even if saving was cut short.
-/

namespace CallAtlas

variable {σ : Type}

namespace Refresh

open Job

/-! ## The stored model -/

/-- What loading a model gives from a part of the state. -/
lemma run_onPart_load (get : σ → Workspace) (set : Workspace → σ → σ) (path : Text)
    (s : Session σ) : ((Job.onPart get set (ModelFile.load path)).run s).1
      = ModelFile.loaded (get s.world) path :=
  (ModelFile.load_reads path).outcome (s.part get)

/-- A part of the state in which saving failed keeps the path of the model. -/
lemma keeps_of_onPart {get : σ → Workspace} {set : Workspace → σ → σ}
    (hset : ∀ w x, get (set w x) = w) {faults : ModelFile.Faults} {path : Text} {m : RepoModel}
    {md : RepoMetadata} {u v : Session σ} {thrown : Thrown}
    (hsound : (get u.world).files.Sound) (hprocess : Text.slash ∉ u.host.process)
    (hname : Path.baseName path ∉ [[], Path.here, Path.up])
    (hshort : ∀ d ∈ FileSystem.above ((get u.world).absolute path)
      ++ [(get u.world).absolute path], FileSystem.isTooLong d = false)
    (h : (Job.onPart get set (ModelFile.saveWith faults path m md)).run u = (.error thrown, v)) :
    ModelFile.loaded (get v.world) path = ModelFile.loaded (get u.world) path
      ∧ (get v.world).directory = (get u.world).directory
      ∧ FileSystem.Grows (get u.world).files (get v.world).files := by
  rcases hrun : (ModelFile.saveWith faults path m md).run (u.part get) with ⟨o, t⟩
  rw [run_onPart, hrun] at h
  obtain ⟨rfl, rfl⟩ := Prod.mk.inj h
  have hloaded := ModelFile.loaded_of_saveWith (s := u.part get) hname hshort hprocess hsound hrun
  have hkeeps := ModelFile.keeps_of_saveWith (s := u.part get) hname hshort hprocess hsound hrun
  show ModelFile.loaded (get (set t.world u.world)) path = _
    ∧ (get (set t.world u.world)).directory = _
    ∧ FileSystem.Grows _ (get (set t.world u.world)).files
  rw [hset]
  exact ⟨hloaded, hkeeps.directory, hkeeps.grows⟩

/-- Whatever the collaborators do, a refresh saves at most once, only what was generated without
being cancelled and after its snapshot was released; it releases every snapshot once; and it uses a
stored model again, without fetching or saving, only for a good reason. Whenever it throws, is
cancelled or uses the stored model again, the model is loaded afterwards as before, even if one of
the steps of saving fails. The path of the model ends in a name, none of its names is too long, and
each `..` in it leads out of a directory that is there; so it is read as the system reads it by
following it, before the refresh and afterwards. -/
theorem refresh_conduct (c : Collaborators σ) (q : RefreshRequest) (s : Session σ) :
    (∃ calls, (refresh c.observed q).run (s.observed [])
        = (((refresh c q).run s).1, ((refresh c q).run s).2.observed calls)
      ∧ Conduct q calls ((refresh c q).run s).1)
    ∧ ∀ (get : σ → Workspace) (set : Workspace → σ → σ) (faults : ModelFile.Faults),
      (∀ w x, get (set w x) = w) →
      c.Leave get →
      (∀ model metadata, c.store.save q.outputPath model metadata
        = Job.onPart get set (ModelFile.saveWith faults q.outputPath model metadata)) →
      (get s.world).files.Sound →
      Text.slash ∉ s.host.process →
      Path.baseName q.outputPath ∉ [[], Path.here, Path.up] →
      (get s.world).StepsOut q.outputPath →
      (∀ d ∈ FileSystem.above ((get s.world).absolute q.outputPath)
          ++ [(get s.world).absolute q.outputPath], FileSystem.isTooLong d = false) →
      hasSaved ((refresh c q).run s).1 = false →
      let left := ((refresh c q).run s).2
      ((Job.onPart get set (ModelFile.load q.outputPath)).run left).1
          = ((Job.onPart get set (ModelFile.load q.outputPath)).run s).1
        ∧ ((get s.world).node? Path.here = some .directory →
          ∀ w ∈ [get s.world, get left.world],
            w.read q.outputPath = w.readFollowing q.outputPath) := by
  constructor
  · obtain ⟨calls, hrun, inner, hcourse, houtcome⟩ := observes_refresh (c := c) (q := q) s []
    exact ⟨calls, hrun, houtcome ▸ hcourse.conduct.mapError _⟩
  · intro get set faults hset hleave hsave hsound hprocess hname hout hshort hunsaved left
    rw [run_onPart_load, run_onPart_load]
    obtain ⟨hloaded, hdirectory, hgrows⟩ :
        ModelFile.loaded (get left.world) q.outputPath
            = ModelFile.loaded (get s.world) q.outputPath
          ∧ (get left.world).directory = (get s.world).directory
          ∧ FileSystem.Grows (get s.world).files (get left.world).files := by
      rcases unsaved_of_refresh hleave s hunsaved with
        hsame | ⟨u, v, model, metadata, thrown, hbefore, hthrown, hafter⟩
      · rw [hsame.part]
        exact ⟨rfl, rfl, .refl _⟩
      · rw [hsave] at hthrown
        rw [← hbefore.part] at hsound hshort ⊢
        rw [← hbefore.host] at hprocess
        rw [hafter.part]
        exact keeps_of_onPart hset hsound hprocess hname hshort hthrown
    refine ⟨hloaded, fun hpresent => ?_⟩
    have hafter := Workspace.read_eq_readFollowing_of_grows hgrows hdirectory hsound.connected
      hpresent hname hout
    exact List.forall_mem_cons.mpr ⟨Workspace.read_eq_readFollowing hsound.connected hpresent hname
      hout, List.forall_mem_singleton.mpr hafter⟩

/-- Collaborators that fetch and generate nothing, and a store that saves with faults. -/
def idleWith (faults : ModelFile.Faults) : Collaborators Workspace where
  provider := { fetch := fun _ ref => pure { files := [], ref, release := pure () } }
  store := { load := ModelFile.load, save := ModelFile.saveWith faults }
  generate := fun _ => pure default

lemma leave_idleWith (faults : ModelFile.Faults) : (idleWith faults).Leave id where
  load path := .of_reads (ModelFile.load_reads path)
  lookUp := fun _ hlookup => nomatch hlookup
  fetch := fun _ _ => .give _
  release := by
    intro repository ref s snapshot t h
    obtain rfl := Except.ok.inj (Prod.mk.inj h).1
    exact .give _
  generate := fun _ => .give _

/-- A request that keeps the model at a path of the present directory. -/
def requestAt (outputPath : Text) : RefreshRequest where
  repository := "/r"
  ref := "HEAD"
  outputPath

/-- A session in a directory with a stored model. -/
def keptSession : Session Workspace where
  host := default
  world :=
    { directory := "/r"
      files := ⟨[("/r", .directory),
        ("/r/m", .file (RepoModel.documentText
          (RepoModel.toDocument {} ModelFile.oddMetadata)))]⟩ }

/-- Writing fails when there is a part of the draft. -/
def partialDraft : ModelFile.Faults where
  draft := some (some "\x7b", { kind := .general, message := "EIO" })

/-- A path that leads out of the present directory and into it again. -/
def detour : Text := "../r/m"

lemma loaded_keptSession :
    ModelFile.loaded keptSession.world detour = .ok (some ⟨ModelFile.oddMetadata, {}⟩) := by
  have hstorable : RepoModel.IsStorable {} :=
    ⟨by decide, by decide, fun f hf => nomatch hf⟩
  have hread : keptSession.world.read detour
      = .ok (RepoModel.documentText (RepoModel.toDocument {} ModelFile.oddMetadata)) :=
    FileSystem.read_eq_ok (by decide) (by decide) rfl (by decide)
  rw [ModelFile.loaded, hread]
  simp only [ModelFile.decode_documentText hstorable]
  rfl

/-- A stored model is loaded after a refresh that throws as it leaves a part of a draft behind, and
its path is read by following it out of a directory and into it again. -/
theorem refresh_conduct_partialDraft :
    let left := ((refresh (idleWith partialDraft) (requestAt detour)).run keptSession).2
    hasSaved ((refresh (idleWith partialDraft) (requestAt detour)).run keptSession).1 = false
    ∧ ((Job.onPart id (fun w _ => w) (ModelFile.load detour)).run left).1
      = .ok (some ⟨ModelFile.oddMetadata, {}⟩)
    ∧ left.world.read detour = left.world.readFollowing detour := by
  have hunsaved :
      hasSaved ((refresh (idleWith partialDraft) (requestAt detour)).run keptSession).1 = false := by
    decide +kernel
  have hsound : keptSession.world.files.Sound := by
    refine ⟨by decide, ?_, ?_⟩ <;> simp only [keptSession, List.forall_mem_cons] <;>
      exact ⟨by decide, by decide, fun n hn => nomatch hn⟩
  obtain ⟨hkept, hfollowed⟩ :=
    (refresh_conduct (idleWith partialDraft) (requestAt detour) keptSession).2 id (fun w _ => w)
      partialDraft (fun _ _ => rfl) (leave_idleWith _) (fun _ _ => (Job.onPart_id _).symm) hsound
      (by decide) (by decide) (by decide) (by decide) hunsaved
  refine ⟨hunsaved, hkept.trans ?_, hfollowed rfl _ (List.mem_cons_of_mem _ List.mem_cons_self)⟩
  exact (run_onPart_load id (fun w _ => w) detour keptSession).trans loaded_keptSession

/-- A path below a directory that is not there, with a name that is too long for a file. -/
def longPath : Text := Text.ofString "d/" ++ List.replicate 256 (Text.unit 'x')

/-- A refresh that throws as the name of its model is too long has made the directory, and the model
that was not there before is out of reach. The store is the one that keeps models in files, and no
fault is needed. -/
theorem refresh_conduct_longPath :
    (idleWith {}).store = ModelFile.store
    ∧ (idleWith {}).Leave id
    ∧ ((refresh (idleWith {}) (requestAt longPath)).run keptSession).1.isOk = false
    ∧ ((ModelFile.load longPath).run keptSession).1.toOption = some none
    ∧ ((ModelFile.load longPath).run
        ((refresh (idleWith {}) (requestAt longPath)).run keptSession).2).1.isOk = false :=
  have hstore : (idleWith {}).store = ModelFile.store := by
    rw [idleWith, ModelFile.saveWith_none]
    rfl
  ⟨hstore, leave_idleWith {}, by decide +kernel, by decide +kernel, by decide +kernel⟩

end Refresh

end CallAtlas
