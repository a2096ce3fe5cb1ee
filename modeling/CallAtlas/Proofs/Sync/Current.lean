import CallAtlas.Proofs.Generation.Model
import CallAtlas.Proofs.Sync.Reuse
import CallAtlas.Proofs.Workspace.Recorded
import CallAtlas.Proofs.Workspace.Store

/-!
# When a stored model is current

A model that is used again was generated from the files that a scan picked up when it was saved. It
is the model of the present files as far as these are the same, which the fingerprint tells but for
two things: a commit does not tell the ignored files of its work tree, and a digest does not tell
which of two files with the same path comes first.
-/

namespace CallAtlas

/-! ## The collaborators -/

namespace Checkout

/-- Those with whose help the model of a directory is kept in a file. -/
def Tools.collaborators (tools : Tools) (options : CheckoutOptions)
    (generation : GenerateOptions) : Collaborators Workspace where
  provider := tools.provider options
  store := ModelFile.store
  generate := generate generation

variable {tools : Tools} {options : CheckoutOptions} {generation : GenerateOptions}
  {q : RefreshRequest} {s : Session Workspace}

/-- A refresh that used a stored model again had found its fingerprint to be that of the
directory. -/
lemma of_reused {m : PersistedModel} {warnings : List Text}
    (h : ((refresh (tools.collaborators options generation) q).run s).1
      = .ok (.reused m warnings)) :
    ∃ state, tools.resolveRef s.world (s.world.absolute q.repository) q.ref = .ok state
      ∧ m.metadata.fingerprint = some (fingerprintOf state
          (tools.picked options s.registry.extensions s.world (s.world.absolute q.repository)))
      ∧ (isClean state = false →
          tools.scanned options s.registry.extensions s.world (s.world.absolute q.repository)
            = .ok (tools.picked options s.registry.extensions s.world
                (s.world.absolute q.repository))) := by
  obtain ⟨-, fingerprint, hpresent, hstored, -⟩ := Refresh.of_reused rfl
    (ModelFile.load_reads q.outputPath) (lookUp_reads tools options q.repository q.ref) h
  obtain ⟨state, hstate, rfl, hscan⟩ := of_lookedUp hpresent
  exact ⟨state, hstate, hstored, hscan⟩

/-- A refresh that generated a model had scanned the directory, and the metadata have its
fingerprint. -/
lemma of_regenerated {g : Generated} {metadata : RepoMetadata} {warnings : List Text}
    (h : ((refresh (tools.collaborators options generation) q).run s).1
      = .ok (.regenerated g metadata warnings)) :
    ∃ state u, tools.resolveRef s.world (s.world.absolute q.repository) q.ref = .ok state
      ∧ tools.scanned options s.registry.extensions s.world (s.world.absolute q.repository)
          = .ok (tools.picked options s.registry.extensions s.world
              (s.world.absolute q.repository))
      ∧ Session.Same s u
      ∧ ((generate generation (tools.picked options s.registry.extensions s.world
          (s.world.absolute q.repository))).run u).1 = .ok g
      ∧ metadata.fingerprint = (some (fingerprintOf state
          (tools.picked options s.registry.extensions s.world
            (s.world.absolute q.repository)))).filter fun f => !f.isEmpty := by
  obtain ⟨snapshot, u, hsnapshot, hsame, hgenerate, hfingerprint⟩ := Refresh.of_regenerated rfl
    (ModelFile.load_reads q.outputPath) (lookUp_reads tools options q.repository q.ref)
    (fetch_reads tools options q.repository q.ref) h
  obtain ⟨state, hstate, hscan, rfl⟩ := of_fetched hsnapshot
  exact ⟨state, u, hstate, hscan, hsame, hgenerate, hfingerprint⟩

/-- A directory that can be scanned in a state that is known is fetched. -/
lemma exists_fetch {directory : Text} {registered : List Text} {state : Option GitState}
    {files : List SourceFile} (hdirectory : s.world.absolute q.repository = directory)
    (hregistered : s.registry.extensions = registered)
    (hstate : tools.resolveRef s.world directory q.ref = .ok state)
    (hscan : tools.scanned options registered s.world directory = .ok files) :
    ∃ t, (tools.fetch options q.repository q.ref).run s
        = (.ok (snapshotOf directory q.ref state files), t) ∧ Session.Same s t := by
  have hreads := fetch_reads tools options q.repository q.ref
  refine ⟨((tools.fetch options q.repository q.ref).run s).2, Prod.ext ?_ rfl, hreads.same s⟩
  rw [hreads.outcome s, Tools.fetched, hdirectory, hregistered, hstate, hscan]
  rfl

lemma extensions_eq_of_view {r r' : Registry} (h : r'.view = r.view) :
    r'.extensions = r.extensions := by
  have hview : ∀ r : Registry, r.extensions = r.view.map Prod.fst := by
    intro r
    rw [Registry.extensions, Registry.view, List.map_map]
    rfl
  rw [hview, hview, h]

/-- A refresh that uses a model again which an earlier refresh had saved could have fetched the
content of the directory. The files of that content are those of which the model was generated,
exactly if all is the same that the fingerprint leaves open; and then generating gives that
model. This holds of any tools that keep the files of a commit and find the files that patterns
select. -/
theorem reused_is_current_iff {held : Workspace → (directory path : Text) → Option Text}
    {selects : (patterns ignore : List Text) → (directory path : Text) → Bool}
    (hsearches : Searches tools selects) {s₁ s₂ : Session Workspace} {g : Generated}
    {metadata : RepoMetadata} {warnings₁ warnings₂ : List Text}
    (hworkers : ∀ script, generation.workers = some script → script = WorkerScript.indexing)
    (hsaved : ((refresh (tools.collaborators options generation) q).run s₁).1
      = .ok (.regenerated g metadata warnings₁))
    (hcancelled : g.cancelled = false)
    (hreused : ((refresh (tools.collaborators options generation) q).run s₂).1
      = .ok (.reused ⟨metadata, g.model⟩ warnings₂))
    (hdirectory : s₂.world.absolute q.repository = s₁.world.absolute q.repository)
    (hregistry : s₂.registry.view = s₁.registry.view)
    (hsound₁ : s₁.world.files.Sound) (hsound₂ : s₂.world.files.Sound)
    (hkeeps : Keeps tools held s₁.world s₂.world (s₁.world.absolute q.repository))
    (hcollision : ∀ state,
      tools.resolveRef s₂.world (s₁.world.absolute q.repository) q.ref = .ok state →
      isClean state = false → CollisionFree
        (tools.picked options s₁.registry.extensions s₁.world (s₁.world.absolute q.repository))
        (tools.picked options s₁.registry.extensions s₂.world
          (s₁.world.absolute q.repository))) :
    let directory := s₁.world.absolute q.repository
    let registered := s₁.registry.extensions
    ∃ state snapshot t, tools.resolveRef s₂.world directory q.ref = .ok state
      ∧ (tools.fetch options q.repository q.ref).run s₂ = (.ok snapshot, t)
      ∧ (snapshot.files = tools.picked options registered s₁.world directory
          ↔ SameUntold tools held options registered directory state s₁.world s₂.world)
      ∧ (SameUntold tools held options registered directory state s₁.world s₂.world →
          ∃ g', ((generate (Generation.unaborted generation) snapshot.files).run t).1 = .ok g'
            ∧ g'.cancelled = false ∧ g'.model = g.model) := by
  intro directory registered
  have hextensions : s₂.registry.extensions = registered := extensions_eq_of_view hregistry
  obtain ⟨state₁, u, hstate₁, hscan₁, hsame, hgenerate, hfingerprint₁⟩ := of_regenerated hsaved
  obtain ⟨state₂, hstate₂, hfingerprint₂, hscan₂⟩ := of_reused hreused
  rw [hdirectory, hextensions] at hfingerprint₂ hscan₂
  rw [hdirectory] at hstate₂
  have hid₁ := hasId_of_resolveRef hkeeps.first.length hstate₁
  have hid₂ := hasId_of_resolveRef hkeeps.second.length hstate₂
  have hfingerprint : fingerprintOf state₁ (tools.picked options registered s₁.world directory)
      = fingerprintOf state₂ (tools.picked options registered s₂.world directory) := by
    rw [hfingerprint₁] at hfingerprint₂
    exact Option.some.inj (Option.filter_eq_some_iff.mp hfingerprint₂).1
  have hkind := fingerprintOf_inj hid₁ hid₂ hfingerprint
  have hiff := picked_eq_iff hsearches hsound₁ hsound₂ hkeeps hstate₁ hstate₂
    (hcollision state₂ hstate₂) hkind
  -- Looking up the fingerprint of a clean work tree does not scan it, but an earlier scan worked.
  have hscan : tools.scanned options registered s₂.world directory
      = .ok (tools.picked options registered s₂.world directory) := by
    rcases hkind with ⟨hclean, rfl⟩ | ⟨-, hdirty, -⟩
    · match state₁, hclean with
      | some ⟨commit, false⟩, _ =>
        have hthere := hkeeps.second.isDirectory (resolveRef_eq_some hstate₂).1
        exact hsearches.exists_scanned hscan₁
          (FileSystem.blocked?_eq_none_of_isDirectory hsound₂ hthere) hthere
    · exact hscan₂ hdirty
  obtain ⟨t, hfetch, hsame₂⟩ := exists_fetch hdirectory hextensions hstate₂ hscan
  refine ⟨state₂, _, t, hstate₂, hfetch, hiff, fun huntold => ?_⟩
  have hview : t.registry.view = u.registry.view := by
    rw [hsame₂.registry, hregistry, hsame.registry]
  have hfiles : (snapshotOf directory q.ref state₂ (tools.picked options registered s₂.world
      directory)).files = tools.picked options registered s₁.world directory := hiff.mpr huntold
  rw [hfiles]
  exact Generation.generate_again hview hworkers hgenerate hcancelled

/-! ## An ignored file -/

/-- A registry with an adapter for files without an extension, which reads a text as an import. -/
def importRegistry : Registry where
  entries :=
    [([], { languageId := "plain"
            factory := .ok { languageId := "plain", outline := fun t _ => .ok { imports := [t] } }
            builtin := false })]

/-- The id of a commit. -/
def someId : Text := Text.ofString "0123456789abcdef0123456789abcdef01234567"

/-- A commit of the rules that tell which files are ignored. -/
def someCommit : GitCommit where
  id := someId
  message := []
  tree := [(".gitignore", "p\n")]

/-- The files of a clean work tree with an ignored file `p`. -/
def ignoringFiles (ignored : Text) : List (Text × FileNode) :=
  [("/r", .directory), ("/r/.gitignore", .file "p\n"), ("/r/p", .file ignored),
    ("/r/.git", .directory), ("/r/.git/HEAD", .file (someId ++ [Text.newline])),
    ("/r/.git/objects", .directory), ("/r/.git/refs", .directory),
    ("/r/.git/index", .file Git.indexMark)]

/-- A session on this work tree, with more files beside it. -/
def ignoringSession (ignored : Text) (beside : List (Text × FileNode)) : Session Workspace where
  host := default
  world :=
    { directory := "/r"
      files := ⟨ignoringFiles ignored ++ beside⟩
      git := some { top := "/r", commits := [someCommit], index := someCommit.tree } }
  registry := importRegistry

/-- A request that keeps the model beside the work tree. -/
def besideRequest : RefreshRequest where
  repository := "/r"
  ref := Git.headName
  outputPath := "/m.json"

/-- The options where no file is left out by a pattern. -/
def allFiles : CheckoutOptions := { ignore := [] }

/-- The metadata of the model that is saved at first. -/
def savedMetadata : RepoMetadata where
  repository := "/r"
  ref := Git.headName
  fingerprint := some someId
  generatedAt := []
  toolVersion := Text.ofString version

/-- The model of a work tree whose ignored file holds an `x`. -/
def savedModel : RepoModel where
  files := [("p", { language := "plain", lineCount := 1, definitions := [], imports := ["x"] })]

/-- The file with this model. -/
def savedFile : Text × FileNode :=
  ("/m.json", .file (RepoModel.documentText (savedModel.toDocument savedMetadata)))

/-- Was the model generated that is saved at first? -/
def generatesSaved : Outcome RefreshResult → Bool
  | .ok (.regenerated g metadata _) =>
    metadata == savedMetadata && g.model == savedModel && !g.cancelled
  | _ => false

/-- Was the model used again that was saved at first? -/
def reusesSaved : Outcome RefreshResult → Bool
  | .ok (.reused m _) => m == ⟨savedMetadata, savedModel⟩
  | _ => false

lemma exists_of_generatesSaved {o : Outcome RefreshResult} (h : generatesSaved o = true) :
    ∃ g warnings, o = .ok (.regenerated g savedMetadata warnings) ∧ g.model = savedModel
      ∧ g.cancelled = false := by
  unfold generatesSaved at h
  split at h
  · rename_i g metadata warnings
    simp only [Bool.and_eq_true, beq_iff_eq, Bool.not_eq_true'] at h
    obtain ⟨⟨rfl, hmodel⟩, hcancelled⟩ := h
    exact ⟨g, warnings, rfl, hmodel, hcancelled⟩
  · cases h

lemma exists_of_reusesSaved {o : Outcome RefreshResult} (h : reusesSaved o = true) :
    ∃ warnings, o = .ok (.reused ⟨savedMetadata, savedModel⟩ warnings) := by
  unfold reusesSaved at h
  split at h
  · rename_i m warnings
    obtain rfl := beq_iff_eq.mp h
    exact ⟨warnings, rfl⟩
  · cases h

/-- Has a session another model than the one that was saved at first? -/
def differsFromSaved (fetched : Outcome (Snapshot Workspace) × Session Workspace) : Bool :=
  match fetched with
  | (.ok snapshot, t) =>
    match ((generate (Generation.unaborted {}) snapshot.files).run t).1 with
    | .ok g => g.model != savedModel
    | .error _ => false
  | _ => false

lemma exists_of_differsFromSaved {fetched : Outcome (Snapshot Workspace) × Session Workspace}
    (h : differsFromSaved fetched = true) : ∃ snapshot t g', fetched = (.ok snapshot, t)
      ∧ ((generate (Generation.unaborted {}) snapshot.files).run t).1 = .ok g'
      ∧ g'.model ≠ savedModel := by
  unfold differsFromSaved at h
  split at h
  · rename_i snapshot t
    split at h
    · rename_i g' hg'
      exact ⟨snapshot, t, g', rfl, hg', bne_iff_ne.mp h⟩
    · cases h
  · cases h

/-- The first refresh generates the model and saves it, a later one uses it again whatever the
ignored file holds, and that file changes the model. The runs are computed at once, so that what
they have in common is computed once. -/
lemma runs_ignoringSession :
    generatesSaved ((refresh (standard.collaborators allFiles {}) besideRequest).run
        (ignoringSession "x" [])).1
      ∧ (∀ ignored ∈ (["x", "y"] : List Text), reusesSaved
          ((refresh (standard.collaborators allFiles {}) besideRequest).run
            (ignoringSession ignored [savedFile])).1)
      ∧ differsFromSaved ((standard.fetch allFiles besideRequest.repository besideRequest.ref).run
          (ignoringSession "y" [savedFile])) := by
  decide +kernel

/-- The first refresh of the work tree generates its model. -/
lemma refresh_first : ∃ g warnings,
    ((refresh (standard.collaborators allFiles {}) besideRequest).run (ignoringSession "x" [])).1
        = .ok (.regenerated g savedMetadata warnings)
      ∧ g.model = savedModel ∧ g.cancelled = false :=
  exists_of_generatesSaved runs_ignoringSession.1

/-- A refresh after the first one uses the saved model again, whatever the ignored file holds. -/
lemma refresh_later {ignored : Text} (hignored : ignored = "x" ∨ ignored = "y") :
    ∃ warnings, ((refresh (standard.collaborators allFiles {}) besideRequest).run
        (ignoringSession ignored [savedFile])).1
      = .ok (.reused ⟨savedMetadata, savedModel⟩ warnings) := by
  refine exists_of_reusesSaved (runs_ignoringSession.2.1 ignored ?_)
  simpa using hignored

/-- The repository of the work tree. -/
def ignoringRepository : GitRepository where
  top := "/r"
  commits := [someCommit]
  index := someCommit.tree

/-- A work tree with its ignored file, with the saved model beside it or without. -/
lemma tree_ignoringSession : ∀ beside ∈ [[], [savedFile]],
    (ignoringSession "x" beside).world.files.Sound
      ∧ repositoryOf? (ignoringSession "x" beside).world "/r" = some ignoringRepository
      ∧ Git.headFiles ignoringRepository (ignoringSession "x" beside).world.files
        = someCommit.tree
      ∧ (ignoringSession "x" beside).world.files.filesIn "/r"
        = (ignoringSession "x" []).world.files.filesIn "/r" := by
  decide +kernel

lemma length_of_mem_commits : ∀ c ∈ ignoringRepository.commits, c.id.length = Git.idLength := by
  decide +kernel

/-- The work tree keeps its history. -/
lemma sameHistory_ignoringSession :
    SameHistory (ignoringSession "x" []).world (ignoringSession "x" [savedFile]).world "/r" := by
  obtain ⟨-, h₁, hfiles₁, -⟩ := tree_ignoringSession [] List.mem_cons_self
  obtain ⟨-, h₂, hfiles₂, -⟩ := tree_ignoringSession [savedFile] (by simp)
  constructor
  · intro r hr
    rw [h₁] at hr
    exact Option.some.inj hr ▸ length_of_mem_commits
  · intro r hr
    rw [h₂] at hr
    exact Option.some.inj hr ▸ length_of_mem_commits
  · intro r₁ r₂ hr₁ hr₂
    rw [h₁] at hr₁
    rw [h₂] at hr₂
    rw [← Option.some.inj hr₁, ← Option.some.inj hr₂]
  · intro r₁ r₂ hr₁ hr₂ _
    rw [h₁] at hr₁
    rw [h₂] at hr₂
    rw [← Option.some.inj hr₁, ← Option.some.inj hr₂, hfiles₁, hfiles₂]

/-- A file beside the work tree makes no difference to what the fingerprint leaves open. -/
lemma sameUntold_ignoringSession {state : Option GitState} :
    SameUntold standard recorded allFiles importRegistry.extensions "/r" state
      (ignoringSession "x" []).world (ignoringSession "x" [savedFile]).world := by
  obtain ⟨hsound₁, h₁, hfiles₁, -⟩ := tree_ignoringSession [] List.mem_cons_self
  obtain ⟨hsound₂, h₂, hfiles₂, hin⟩ := tree_ignoringSession [savedFile] (by simp)
  have hfault : ∀ {fs : FileSystem}, fs.Sound → fs.isDirectory "/r" = true →
      Glob.scanFault? fs "/r" = none := fun hsound hthere =>
    Glob.scanFault?_eq_none (FileSystem.blocked?_eq_none_of_isDirectory hsound hthere) hthere
  have hfound : ∀ patterns ignore,
      standard.find (ignoringSession "x" [savedFile]).world "/r" patterns ignore
        = standard.find (ignoringSession "x" []).world "/r" patterns ignore := by
    intro patterns ignore
    show Glob.find (ignoringSession "x" [savedFile]).world.files _ _ _
      = Glob.find (ignoringSession "x" []).world.files _ _ _
    unfold Glob.find Glob.candidates
    rw [hfault hsound₁ (repositoryOf?_eq_some h₁).1, hfault hsound₂ (repositoryOf?_eq_some h₂).1,
      hin]
  have haccepted : standard.accepted allFiles importRegistry.extensions
        (ignoringSession "x" [savedFile]).world "/r"
      = standard.accepted allFiles importRegistry.extensions (ignoringSession "x" []).world
          "/r" := by
    rw [Tools.accepted, Tools.accepted, hfound]
  constructor
  · intro _
    unfold Tools.unrecorded recorded
    simp only [haccepted, h₁, h₂, Option.bind_some, hfiles₁, hfiles₂]
    exact .refl _
  · intro path _
    unfold Tools.picked
    rw [haccepted]

/-- A later session has another model if the ignored file has changed. -/
lemma fetch_later : ∃ snapshot t g',
    (standard.fetch allFiles besideRequest.repository besideRequest.ref).run
        (ignoringSession "y" [savedFile]) = (.ok snapshot, t)
      ∧ ((generate (Generation.unaborted {}) snapshot.files).run t).1 = .ok g'
      ∧ g'.model ≠ savedModel :=
  exists_of_differsFromSaved runs_ignoringSession.2.2

/-! ## Models that are used again -/

/-- A refresh that uses a model again which an earlier refresh had saved could have fetched the
content of the directory. The files of that content are those of which the model was generated,
exactly if all is the same that the fingerprint leaves open; and then generating gives that
model. -/
theorem reused_model_is_current {s₁ s₂ : Session Workspace} {g : Generated}
    {metadata : RepoMetadata} {warnings₁ warnings₂ : List Text}
    (hworkers : ∀ script, generation.workers = some script → script = WorkerScript.indexing)
    (hsaved : ((refresh (standard.collaborators options generation) q).run s₁).1
      = .ok (.regenerated g metadata warnings₁))
    (hcancelled : g.cancelled = false)
    (hreused : ((refresh (standard.collaborators options generation) q).run s₂).1
      = .ok (.reused ⟨metadata, g.model⟩ warnings₂))
    (hdirectory : s₂.world.absolute q.repository = s₁.world.absolute q.repository)
    (hregistry : s₂.registry.view = s₁.registry.view)
    (hsound₁ : s₁.world.files.Sound) (hsound₂ : s₂.world.files.Sound)
    (hhistory : SameHistory s₁.world s₂.world (s₁.world.absolute q.repository))
    (hcollision : ∀ state,
      standard.resolveRef s₂.world (s₁.world.absolute q.repository) q.ref = .ok state →
      isClean state = false → CollisionFree
        (standard.picked options s₁.registry.extensions s₁.world (s₁.world.absolute q.repository))
        (standard.picked options s₁.registry.extensions s₂.world
          (s₁.world.absolute q.repository))) :
    let directory := s₁.world.absolute q.repository
    let registered := s₁.registry.extensions
    ∃ state snapshot t, standard.resolveRef s₂.world directory q.ref = .ok state
      ∧ (standard.fetch options q.repository q.ref).run s₂ = (.ok snapshot, t)
      ∧ (snapshot.files = standard.picked options registered s₁.world directory
          ↔ SameUntold standard recorded options registered directory state s₁.world s₂.world)
      ∧ (SameUntold standard recorded options registered directory state s₁.world s₂.world →
          ∃ g', ((generate (Generation.unaborted generation) snapshot.files).run t).1 = .ok g'
            ∧ g'.cancelled = false ∧ g'.model = g.model) :=
  reused_is_current_iff searches_standard hworkers hsaved hcancelled hreused hdirectory hregistry
    hsound₁ hsound₂ hhistory.keeps hcollision

/-- The model of the work tree is saved and used again, and it is the present one. -/
theorem reused_model_is_current_ignoring : ∃ g warnings₁ warnings₂ snapshot t g',
    ((refresh (standard.collaborators allFiles {}) besideRequest).run (ignoringSession "x" [])).1
      = .ok (.regenerated g savedMetadata warnings₁)
    ∧ ((refresh (standard.collaborators allFiles {}) besideRequest).run
        (ignoringSession "x" [savedFile])).1
      = .ok (.reused ⟨savedMetadata, g.model⟩ warnings₂)
    ∧ (standard.fetch allFiles besideRequest.repository besideRequest.ref).run
        (ignoringSession "x" [savedFile]) = (.ok snapshot, t)
    ∧ ((generate (Generation.unaborted {}) snapshot.files).run t).1 = .ok g'
    ∧ g'.model = g.model := by
  obtain ⟨g, warnings₁, hsaved, hmodel, hcancelled⟩ := refresh_first
  obtain ⟨warnings₂, hreused⟩ := refresh_later (.inl rfl)
  rw [← hmodel] at hreused
  have hdirectory : (ignoringSession "x" []).world.absolute besideRequest.repository = "/r" := by
    decide +kernel
  have hclean : (standard.resolveRef (ignoringSession "x" [savedFile]).world "/r"
      besideRequest.ref).toOption = some (some ⟨someId, false⟩) := by
    decide +kernel
  obtain ⟨state, snapshot, t, -, hfetch, -, hcurrent⟩ := reused_model_is_current
    (q := besideRequest) (fun script h => by cases h) hsaved hcancelled hreused rfl rfl
    (tree_ignoringSession [] List.mem_cons_self).1 (tree_ignoringSession [savedFile] (by simp)).1
    (by rw [hdirectory]; exact sameHistory_ignoringSession)
    (by
      intro state hstate hdirty
      rw [hdirectory] at hstate
      rw [hstate] at hclean
      obtain rfl := Option.some.inj hclean
      cases hdirty)
  have huntold : SameUntold standard recorded allFiles (ignoringSession "x" []).registry.extensions
      ((ignoringSession "x" []).world.absolute besideRequest.repository) state
      (ignoringSession "x" []).world (ignoringSession "x" [savedFile]).world := by
    rw [hdirectory]
    exact sameUntold_ignoringSession
  obtain ⟨g', hg', -, hmodel'⟩ := hcurrent huntold
  exact ⟨g, warnings₁, warnings₂, snapshot, t, g', hsaved, hreused, hfetch, hg', hmodel'⟩

/-- When the ignored file changes, the saved model is used again though generating gives another
one. -/
theorem reused_model_is_stale : ∃ g warnings₁ warnings₂ snapshot t g',
    ((refresh (standard.collaborators allFiles {}) besideRequest).run (ignoringSession "x" [])).1
      = .ok (.regenerated g savedMetadata warnings₁)
    ∧ g.cancelled = false
    ∧ ((refresh (standard.collaborators allFiles {}) besideRequest).run
        (ignoringSession "y" [savedFile])).1
      = .ok (.reused ⟨savedMetadata, g.model⟩ warnings₂)
    ∧ (standard.fetch allFiles besideRequest.repository besideRequest.ref).run
        (ignoringSession "y" [savedFile]) = (.ok snapshot, t)
    ∧ ((generate (Generation.unaborted {}) snapshot.files).run t).1 = .ok g'
    ∧ g'.model ≠ g.model := by
  obtain ⟨g, warnings₁, hsaved, hmodel, hcancelled⟩ := refresh_first
  obtain ⟨warnings₂, hreused⟩ := refresh_later (.inr rfl)
  obtain ⟨snapshot, t, g', hfetch, hg', hdiffers⟩ := fetch_later
  rw [← hmodel] at hreused hdiffers
  exact ⟨g, warnings₁, warnings₂, snapshot, t, g', hsaved, hcancelled, hreused, hfetch, hg',
    hdiffers⟩

end Checkout

end CallAtlas
