import CallAtlas.Proofs.Generation.Storable
import CallAtlas.Proofs.Sync.Current
import CallAtlas.Proofs.Sync.Leaving
import CallAtlas.Proofs.Workspace.Extensions
import CallAtlas.Proofs.Workspace.Shown

/-!
# Refreshing again

A model is saved with the fingerprint of the files that it was generated from. As long as these are
the same, a later refresh uses it again exactly if the directory is still in the state in which it
was fetched. Saving itself changes that state where it makes a clean work tree dirty, which it does
if the work tree shows the file of the model.
-/

namespace CallAtlas

namespace Generation

/-- A generation leaves all but the registry, the log and the spans as it is. -/
lemma leaves_generate {σ τ : Type} (get : σ → τ) (options : GenerateOptions)
    (files : List SourceFile) : Job.Leaves get (generate options files : Job σ Generated) := by
  have hreport : ∀ (concurrency : Number) (threads : Bool) (g : Generated),
      Job.Leaves get (reportResult concurrency threads g : Job σ Unit) := fun _ _ _ =>
    .behind (.report _) (.report _)
  refine .span (.bind ?_ fun _ _ _ _ => .behind (.annotate _) (.give _)) _ _
  refine Job.Leaves.host.bind fun _ _ _ _ => ?_
  simp only
  split
  · exact .bind (.bind (.ofOutcome _) fun _ _ _ _ => .ofOutcome _) fun _ _ _ _ =>
      .behind (hreport _ _ _) (.give _)
  · exact .bind (.bind .registry fun _ _ _ _ =>
      .behind (.setRegistry _) (.behind (.report _) (.ofOutcome _))) fun _ _ _ _ =>
        .behind (hreport _ _ _) (.give _)

end Generation

namespace Checkout

variable {tools : Tools}
  {selects : (patterns ignore : List Text) → (directory path : Text) → Bool}
  {options : CheckoutOptions} {generation : GenerateOptions} {q : RefreshRequest}
  {s t u : Session Workspace} {g : Generated} {metadata : RepoMetadata} {warnings : List Text}

/-- None of the collaborators but the store changes the workspace. -/
lemma leave_collaborators : (tools.collaborators options generation).Leave id where
  load path := .of_reads (ModelFile.load_reads path)
  lookUp := by
    intro lookup hlookup repository ref
    obtain rfl := Option.some.inj hlookup
    exact .of_reads (lookUp_reads tools options repository ref)
  fetch repository ref := .of_reads (fetch_reads tools options repository ref)
  release := by
    intro repository ref s snapshot t hfetch
    have hsnapshot := (fetch_reads tools options repository ref).outcome s
    rw [show (tools.fetch options repository ref).run s = (.ok snapshot, t) from hfetch]
      at hsnapshot
    obtain ⟨state, -, -, rfl⟩ := of_fetched hsnapshot.symm
    exact .report _
  generate files := Generation.leaves_generate id generation files

/-! ## First refreshes -/

/-- The content of a directory is fetched and a model is generated of it. -/
lemma exists_run_regenerate {state : Option GitState} {files : List SourceFile}
    (hworkers : ∀ script, generation.workers = some script → script = WorkerScript.indexing)
    (hstate : tools.resolveRef s.world (s.world.absolute q.repository) q.ref = .ok state)
    (hscan : tools.scanned options s.registry.extensions s.world (s.world.absolute q.repository)
      = .ok files)
    (hgenerate : ((generate generation files).run s).1 = .ok g) (hsame : Session.Same s u) :
    ∃ metadata v, (Refresh.regenerate (tools.collaborators options generation) q).run u
      = (.ok (g, metadata), v) := by
  have hfetched : tools.fetched options u.registry.extensions u.world q.repository q.ref
      = .ok (snapshotOf (s.world.absolute q.repository) q.ref state files) := by
    rw [hsame.registry, hsame.world]
    show (tools.resolveRef s.world _ _).bind _ = _
    rw [hstate]
    show (tools.scanned options _ s.world _).bind _ = _
    rw [hscan]
    rfl
  have hfetch := fetch_reads tools options q.repository q.ref
  obtain ⟨v, hv⟩ : ∃ v, (tools.fetch options q.repository q.ref).run u
      = (.ok (snapshotOf (s.world.absolute q.repository) q.ref state files), v) :=
    ⟨_, Prod.ext ((hfetch.outcome u).trans hfetched) rfl⟩
  have hsame' : Session.Same u v := by
    have h := hfetch.same u
    rwa [hv] at h
  obtain ⟨w, hw⟩ : ∃ w, (generate generation files).run v = (.ok g, w) := by
    refine ⟨_, Prod.ext ?_ rfl⟩
    rw [Generation.run_generate _ _ s hworkers] at hgenerate
    rw [Generation.run_generate _ _ v hworkers, (hsame.trans hsame').host,
      (hsame.trans hsame').registry]
    exact hgenerate
  exact ⟨_, _, (Job.run_bind_of_eq_ok hv).trans
    (Job.run_ensuring_of_eq_ok ((Job.run_bind_of_eq_ok hw).trans rfl) rfl)⟩

/-- With no model stored, a refresh generates one and saves it, if the directory can be fetched, its
files make a model and the model can be saved. -/
theorem exists_regenerated {state : Option GitState} {files : List SourceFile}
    (hworkers : ∀ script, generation.workers = some script → script = WorkerScript.indexing)
    (hloaded : ModelFile.loaded s.world q.outputPath = .ok none)
    (hstate : tools.resolveRef s.world (s.world.absolute q.repository) q.ref = .ok state)
    (hscan : tools.scanned options s.registry.extensions s.world (s.world.absolute q.repository)
      = .ok files)
    (hgenerate : ((generate generation files).run s).1 = .ok g) (hcancelled : g.cancelled = false)
    (hwritable : ModelFile.IsWritable s.world q.outputPath
      (ModelFile.temporary q.outputPath s.host.process)) :
    ∃ metadata warnings t, (refresh (tools.collaborators options generation) q).run s
      = (.ok (.regenerated g metadata warnings), t) := by
  have hreusable := Refresh.reusable_reads (c := tools.collaborators options generation)
    (q := q) rfl (ModelFile.load_reads q.outputPath)
    (lookUp_reads tools options q.repository q.ref)
  -- Without a stored model there is none to use again, whatever the fingerprint is.
  obtain ⟨warned, hnone⟩ : ∃ warned, Refresh.reusableOf q (ModelFile.loaded s.world q.outputPath)
      (tools.lookedUp options s.registry.extensions s.world q.repository q.ref)
        = .ok (none, warned) := by
    rw [hloaded, lookedUp_eq hstate fun _ => hscan, Refresh.reusableOf]
    split
    · exact ⟨_, rfl⟩
    · exact ⟨_, rfl⟩
  have hsame := hreusable.same (Refresh.entered q s)
  obtain ⟨u, hu⟩ : ∃ u, (Refresh.reusable (tools.collaborators options generation) q).run
      (Refresh.entered q s) = (.ok (none, warned), u) :=
    ⟨_, Prod.ext ((hreusable.outcome _).trans hnone) rfl⟩
  rw [hu] at hsame
  -- Looking for one has changed nothing that fetching and generating depend on.
  obtain ⟨metadata, v, hv⟩ := exists_run_regenerate hworkers hstate hscan hgenerate
    ⟨hsame.host, hsame.world, hsame.registry⟩
  have hcollaborators : (tools.collaborators options generation).Leave id := leave_collaborators
  have hleave := Refresh.leaves_regenerate (q := q) hcollaborators u
  rw [hv] at hleave
  -- Nor have these changed the files, so the model can be saved as it could be at first.
  have hworld : v.world = s.world := hleave.part.trans hsame.world
  have hhost : v.host = s.host := hleave.host.trans hsame.host
  obtain ⟨w, hw⟩ : ∃ w, (ModelFile.save q.outputPath g.model metadata).run v = (.ok (), w) :=
    ModelFile.exists_save (by rw [hworld, hhost]; exact hwritable) _ _
  have hsave : (Refresh.save (tools.collaborators options generation) q g metadata).run v
      = (.ok [], w) := by
    rw [Refresh.save, hcancelled, if_neg Bool.false_ne_true]
    exact Job.run_bind_of_eq_ok hw
  obtain ⟨t, ht⟩ : ∃ t, (Refresh.perform (tools.collaborators options generation) q).run
      (Refresh.entered q s) = (.ok (.regenerated g metadata (warned ++ [])), t) :=
    ⟨_, (Job.run_bind_of_eq_ok hu).trans ((Job.run_bind_of_eq_ok hv).trans
      (Job.run_bind_of_eq_ok hsave))⟩
  have houtcome : ((refresh (tools.collaborators options generation) q).run s).1
      = .ok (.regenerated g metadata (warned ++ [])) :=
    Job.mapError_eq_ok_iff.mpr (congrArg Prod.fst ht)
  exact ⟨metadata, warned ++ [], _, Prod.ext houtcome rfl⟩

/-! ## What the first refresh leaves behind -/

/-- Scans of a directory pick up no file at a path. -/
def PassesOver (selects : (patterns ignore : List Text) → (directory path : Text) → Bool)
    (options : CheckoutOptions) (registered : List Text) (directory path : Text) : Prop :=
  ∀ rest, FileSystem.opening directory ++ rest = path →
    selects (patternsOf (options.extensions.getD registered)) options.ignore directory rest = false

/-- What is assumed of the session in which a model is generated and saved: the directory is there,
ids of commits have forty digits, and the model is kept at a path that names a file, that no scan of
the directory picks up, and where no draft was left behind. -/
structure HasPlace (tools : Tools)
    (selects : (patterns ignore : List Text) → (directory path : Text) → Bool)
    (options : CheckoutOptions) (q : RefreshRequest) (s : Session Workspace) : Prop where
  sound : s.world.files.Sound
  directory : s.world.files.isDirectory (s.world.absolute q.repository) = true
  length : ∀ id, tools.head s.world (s.world.absolute q.repository) = .ok id →
    id.length = Git.idLength
  name : Path.baseName q.outputPath ∉ [[], Path.here, Path.up]
  process : Text.slash ∉ s.host.process
  draft : s.world.node? (ModelFile.temporary q.outputPath s.host.process) = none
  passedOver : PassesOver selects options s.registry.extensions
    (s.world.absolute q.repository) (s.world.absolute q.outputPath)

/-- A file that no scan of a directory picks up makes no difference to one. -/
lemma scanned_of_adds (hsearches : Searches tools selects) {registered : List Text} {w : Workspace}
    {files : FileSystem} {directory path content : Text} (hsound : w.files.Sound)
    (hdirectory : w.files.isDirectory directory = true)
    (hpassed : PassesOver selects options registered directory path)
    (h : FileSystem.Adds path content w.files files) {sources : List SourceFile}
    (hscan : tools.scanned options registered w directory = .ok sources) :
    ∃ sources', tools.scanned options registered { w with files } directory = .ok sources'
      ∧ sources'.Perm sources := by
  have hopen := FileSystem.blocked?_eq_none_of_isDirectory hsound hdirectory
  have hopen' : files.blocked? directory = none :=
    FileSystem.blocked?_eq_none_mono hopen fun _ hd => h.isDirectory hd
  have hdirectory' : files.isDirectory directory = true :=
    beq_iff_eq.mpr (h.isDirectory (beq_iff_eq.mp hdirectory))
  have hscan' : tools.scanned options registered { w with files } directory
      = .ok (tools.picked options registered { w with files } directory) :=
    hsearches.exists_scanned hscan hopen' hdirectory'
  refine ⟨_, hscan', ?_⟩
  obtain ⟨found, hfind⟩ := exists_find_of_scanned hscan
  obtain ⟨found', hfind'⟩ := exists_find_of_scanned hscan'
  -- The file is not selected, so the files that are selected are the same ones.
  have hselected := h.filter_filesIn directory (fun f => !isOversized options.maxFileBytes f
    && selects (patternsOf (options.extensions.getD registered)) options.ignore directory f.1)
    fun f hf => by rw [hpassed f.1 hf, Bool.and_false]
  have haccepted : (tools.accepted options registered { w with files } directory).Perm
      (tools.accepted options registered w directory) :=
    (hsearches.accepted_perm hfind').trans (hselected ▸ (hsearches.accepted_perm hfind).symm)
  rw [eq_of_scanned_eq_ok hscan]
  exact picked_perm.trans ((haccepted.map source).trans picked_perm.symm)

/-- What a refresh leaves behind that found a directory in some state: its model can be loaded, with
the fingerprint of that state and of the files that were scanned, and a scan finds the same files
again. A clean work tree need not have been scanned. -/
structure Settled (tools : Tools) (options : CheckoutOptions) (q : RefreshRequest)
    (s t : Session Workspace) (m : PersistedModel) (state : Option GitState) : Prop where
  resolved : tools.resolveRef s.world (s.world.absolute q.repository) q.ref = .ok state
  fingerprint : m.metadata.fingerprint = some (fingerprintOf state
    (tools.picked options s.registry.extensions s.world (s.world.absolute q.repository)))
  repository : m.metadata.repository = q.repository
  loaded : ModelFile.loaded t.world q.outputPath = .ok (some m)
  sources : isClean state = false → ∃ files,
    tools.scanned options s.registry.extensions t.world (s.world.absolute q.repository) = .ok files
      ∧ files.Perm
          (tools.picked options s.registry.extensions s.world (s.world.absolute q.repository))

/-- What a refresh leaves behind that saved a model: nothing but the model is added to the files. -/
structure Saved (tools : Tools) (options : CheckoutOptions) (q : RefreshRequest)
    (s t : Session Workspace) (m : PersistedModel) (state : Option GitState) : Prop extends
    Settled tools options q s t m state where
  world : t.world = { s.world with files := t.world.files }
  adds : ∃ content, FileSystem.Adds (s.world.absolute q.outputPath) content s.world.files
    t.world.files

/-- A refresh that generated a model of well-behaved files, and was not cancelled, has saved it so
that it can be loaded. -/
theorem exists_saved (hsearches : Searches tools selects)
    (hworkers : ∀ script, generation.workers = some script → script = WorkerScript.indexing)
    (hplace : HasPlace tools selects options q s)
    (hproper : ∀ file ∈ tools.picked options s.registry.extensions s.world
        (s.world.absolute q.repository),
      Index.IsProperIn (Generation.viewOf generation s.registry) file)
    (hlength : ∀ file ∈ tools.picked options s.registry.extensions s.world
        (s.world.absolute q.repository), file.content.length < Text.maxLength)
    (hrun : (refresh (tools.collaborators options generation) q).run s
      = (.ok (.regenerated g metadata warnings), t))
    (hcancelled : g.cancelled = false)
    (hproto : Text.ofString "__proto__" ∉ g.model.files.map Prod.fst) :
    ∃ state, Saved tools options q s t ⟨metadata, g.model⟩ state := by
  obtain ⟨state, v, hstate, hscan, hsame, hgenerate, hfingerprint⟩ :=
    of_regenerated (congrArg Prod.fst hrun)
  have hstorable : g.model.IsStorable := by
    refine Generation.isStorable_of_generate hworkers ?_ hlength hgenerate hproto
    rw [hsame.registry]
    exact hproper
  obtain ⟨hrepository, u, v, hbefore, hsave, hafter⟩ :=
    Refresh.exists_save_of_refresh leave_collaborators hrun hcancelled
  -- The model is saved among the files of `s`, and nothing is changed after that.
  have hworld : u.world = s.world := hbefore.part
  have hlast : t.world = v.world := hafter.part
  have hne : fingerprintOf state (tools.picked options s.registry.extensions s.world
      (s.world.absolute q.repository)) ≠ [] :=
    fingerprintOf_ne_nil (hasId_of_resolveRef hplace.length hstate) _
  have hdraft := hplace.draft
  rw [← hbefore.host, ← hworld] at hdraft
  obtain ⟨hadds, hrest⟩ := ModelFile.adds_of_save hplace.name
    (by rw [hbefore.host]; exact hplace.process) (by rw [hworld]; exact hplace.sound) hdraft hsave
  rw [hworld] at hadds hrest
  refine ⟨state, ⟨hstate, ?_, hrepository, ?_, fun _ => ?_⟩, ?_, ?_⟩
  · rw [hfingerprint, Option.filter_some, if_pos]
    rw [Bool.not_eq_true', List.isEmpty_eq_false_iff]
    exact hne
  · rw [hlast]
    exact ModelFile.loaded_of_saved hstorable hsave
  · rw [hlast, hrest]
    exact scanned_of_adds hsearches hplace.sound hplace.directory hplace.passedOver hadds hscan
  · rw [hlast]
    exact hrest
  · rw [hlast]
    exact ⟨_, hadds⟩

/-- A refresh that used a stored model again leaves everything as it was. -/
theorem exists_settled_of_reused {m : PersistedModel}
    (hrun : (refresh (tools.collaborators options generation) q).run s
      = (.ok (.reused m warnings), t)) :
    t.world = s.world ∧ ∃ state, Settled tools options q s t m state := by
  have hworld : t.world = s.world :=
    (Refresh.samePart_of_reused leave_collaborators hrun).part
  obtain ⟨hloaded, fingerprint, hpresent, hfingerprint, -, hrepository⟩ :=
    Refresh.of_reused (c := tools.collaborators options generation) rfl
      (ModelFile.load_reads q.outputPath) (lookUp_reads tools options q.repository q.ref)
      (congrArg Prod.fst hrun)
  obtain ⟨state, hstate, rfl, hscan⟩ := of_lookedUp hpresent
  refine ⟨hworld, state, hstate, hfingerprint, hrepository, ?_, fun hdirty => ?_⟩
  · rw [hworld]
    exact hloaded
  · rw [hworld]
    exact ⟨_, hscan hdirty, .refl _⟩

/-! ## The later refresh -/

/-- Does a refresh use a stored model again? -/
def Reuses (tools : Tools) (options : CheckoutOptions) (generation : GenerateOptions)
    (q : RefreshRequest) (s : Session Workspace) (m : PersistedModel) : Prop :=
  ∃ warnings, ((refresh (tools.collaborators options generation) q).run s).1
    = .ok (.reused m warnings)

/-- What is assumed of a later session: since the first refresh no source file and no extension has
changed, and neither has the model that is loaded. -/
structure SameSources (tools : Tools) (options : CheckoutOptions) (q : RefreshRequest)
    (s t u : Session Workspace) : Prop where
  directory : u.world.absolute q.repository = s.world.absolute q.repository
  extensions : u.registry.extensions = s.registry.extensions
  scanned : tools.scanned options s.registry.extensions u.world (s.world.absolute q.repository)
    = tools.scanned options s.registry.extensions t.world (s.world.absolute q.repository)
  loaded : ModelFile.loaded u.world q.outputPath = ModelFile.loaded t.world q.outputPath
  length : ∀ id, tools.head u.world (s.world.absolute q.repository) = .ok id →
    id.length = Git.idLength

lemma reuses_iff_reusableOf {m : PersistedModel} : Reuses tools options generation q u m
    ↔ ∃ warnings, Refresh.reusableOf q (ModelFile.loaded u.world q.outputPath)
        (tools.lookedUp options u.registry.extensions u.world q.repository q.ref)
      = .ok (some m, warnings) :=
  exists_congr fun _ => Refresh.reused_iff (c := tools.collaborators options generation) (s := u)
    rfl (ModelFile.load_reads q.outputPath) (lookUp_reads tools options q.repository q.ref)

/-- A later refresh uses the model again exactly if this is wanted and the directory is in the same
state as before. -/
theorem reuses_iff {m : PersistedModel} {state : Option GitState}
    (hplace : HasPlace tools selects options q s)
    (hsettled : Settled tools options q s t m state) (hlater : SameSources tools options q s t u) :
    Reuses tools options generation q u m
      ↔ q.force = false
        ∧ tools.resolveRef u.world (s.world.absolute q.repository) q.ref
          = tools.resolveRef s.world (s.world.absolute q.repository) q.ref := by
  have hid := hasId_of_resolveRef hplace.length hsettled.resolved
  rw [reuses_iff_reusableOf, hlater.loaded, hsettled.loaded, hsettled.resolved]
  constructor
  · rintro ⟨warnings, hreusable⟩
    refine ⟨Refresh.force_eq_false_of_reusableOf hreusable, ?_⟩
    obtain ⟨-, fingerprint, hpresent, hfingerprint, -⟩ := Refresh.reusableOf_eq_some hreusable
    obtain ⟨state', hstate', rfl, -⟩ := of_lookedUp hpresent
    rw [hlater.directory] at hstate' hfingerprint
    have hid' := hasId_of_resolveRef hlater.length hstate'
    have hsame := Option.some.inj (hfingerprint.symm.trans hsettled.fingerprint)
    rw [hstate', state_eq_of_fingerprintOf_eq hid' hid hsame]
  · rintro ⟨hforce, hstate⟩
    -- A scan finds the same files, so the fingerprint is that of the files before.
    obtain ⟨files, hscan, hsame⟩ : ∃ files, (isClean state = false →
        tools.scanned options u.registry.extensions u.world (u.world.absolute q.repository)
          = .ok files)
        ∧ fingerprintOf state files = fingerprintOf state (tools.picked options
            s.registry.extensions s.world (s.world.absolute q.repository)) := by
      rw [hlater.directory, hlater.extensions, hlater.scanned]
      by_cases hclean : isClean state = true
      · refine ⟨_, fun hdirty => ?_, rfl⟩
        rw [hclean] at hdirty
        cases hdirty
      · obtain ⟨files, hscan, hperm⟩ := hsettled.sources (Bool.eq_false_iff.mpr hclean)
        exact ⟨files, fun _ => hscan, fingerprintOf_eq_of_perm state hperm⟩
    have hpresent : tools.lookedUp options u.registry.extensions u.world q.repository q.ref
        = .ok (some (fingerprintOf state files)) :=
      lookedUp_eq (by rw [hlater.directory]; exact hstate) hscan
    rw [hsame] at hpresent
    rw [hpresent]
    exact ⟨[], Refresh.reusableOf_of_present hforce (fingerprintOf_ne_nil hid _)
      hsettled.fingerprint hsettled.repository⟩

/-- Saving leaves the state of a directory as it is, unless the work tree was clean and shows the
file of the model. -/
theorem resolveRef_eq_iff {m : PersistedModel} {state : Option GitState} {shown : Bool}
    (hsaved : Saved tools options q s t m state)
    (hnotices : ∀ content files,
      FileSystem.Adds (s.world.absolute q.outputPath) content s.world.files files →
      Notices tools (s.world.absolute q.repository) q.ref shown s.world { s.world with files }) :
    tools.resolveRef t.world (s.world.absolute q.repository) q.ref
        = tools.resolveRef s.world (s.world.absolute q.repository) q.ref
      ↔ (isClean state = true → shown = false) := by
  obtain ⟨content, hadds⟩ := hsaved.adds
  rw [hsaved.world, (hnotices content _ hadds).resolveRef_eq, hsaved.resolved]
  show Except.ok _ = Except.ok _ ↔ _
  rw [Except.ok.injEq]
  match state with
  | none => exact ⟨fun _ h => (nomatch h), fun _ => rfl⟩
  | some ⟨commit, true⟩ => exact ⟨fun _ h => (nomatch h), fun _ => rfl⟩
  | some ⟨commit, false⟩ => simp [isClean]

/-- What is used again is what was left behind. -/
lemma Reuses.eq_of_settled {m m' : PersistedModel} {state : Option GitState}
    (hsettled : Settled tools options q s t m state) (hlater : SameSources tools options q s t u)
    (h : Reuses tools options generation q u m') : m' = m := by
  obtain ⟨warnings, hreusable⟩ := reuses_iff_reusableOf.mp h
  obtain ⟨hloaded, -⟩ := Refresh.reusableOf_eq_some hreusable
  rw [hlater.loaded, hsettled.loaded] at hloaded
  exact (Option.some.inj (Except.ok.inj hloaded)).symm

/-- The sources are the same in what the first refresh leaves behind. -/
lemma sameSources_of_saved {m : PersistedModel} {state : Option GitState} {shown : Bool}
    (hplace : HasPlace tools selects options q s) (hsaved : Saved tools options q s t m state)
    (hnotices : ∀ content files,
      FileSystem.Adds (s.world.absolute q.outputPath) content s.world.files files →
      Notices tools (s.world.absolute q.repository) q.ref shown s.world { s.world with files }) :
    SameSources tools options q s t { s with world := t.world } where
  directory := by
    show t.world.absolute q.repository = _
    rw [hsaved.world]
    rfl
  extensions := rfl
  scanned := rfl
  loaded := rfl
  length := by
    obtain ⟨content, hadds⟩ := hsaved.adds
    show ∀ id, tools.head t.world _ = .ok id → _
    rw [hsaved.world, (hnotices content _ hadds).head_eq]
    exact hplace.length

/-- Is the model of a refresh partial, as its generation was cancelled? -/
def isPartial : RefreshResult → Bool
  | .reused _ _ => false
  | .regenerated g _ _ => g.cancelled

/-- After a refresh that was not cancelled, as long as no source file changes, a refresh uses its
model again exactly if this is wanted and the directory is in the state in which the first refresh
found it. Right after the first refresh it does so, unless the model was saved in a work tree that
was clean and that shows the file of the model. This holds of any tools that find the files that
patterns select and notice the file of the model if it is shown. -/
theorem reuses_again_iff {result : RefreshResult} (hsearches : Searches tools selects)
    (hworkers : ∀ script, generation.workers = some script → script = WorkerScript.indexing)
    (hplace : HasPlace tools selects options q s)
    (hproper : ∀ file ∈ tools.picked options s.registry.extensions s.world
        (s.world.absolute q.repository),
      Index.IsProperIn (Generation.viewOf generation s.registry) file)
    (hlength : ∀ file ∈ tools.picked options s.registry.extensions s.world
        (s.world.absolute q.repository), file.content.length < Text.maxLength)
    (hrun : (refresh (tools.collaborators options generation) q).run s = (.ok result, t))
    (hpartial : isPartial result = false)
    (hproto : Text.ofString "__proto__" ∉ result.model.files.map Prod.fst)
    (hlater : SameSources tools options q s t u) :
    (Reuses tools options generation q u ⟨result.metadata, result.model⟩
      ↔ q.force = false
        ∧ tools.resolveRef u.world (s.world.absolute q.repository) q.ref
          = tools.resolveRef s.world (s.world.absolute q.repository) q.ref)
    ∧ ∀ shown, u.world = t.world →
      (∀ content files,
        FileSystem.Adds (s.world.absolute q.outputPath) content s.world.files files →
        Notices tools (s.world.absolute q.repository) q.ref shown s.world
          { s.world with files }) →
      (Reuses tools options generation q u ⟨result.metadata, result.model⟩
        ↔ q.force = false
          ∧ (Refresh.hasSaved (.ok result) = true →
            ∀ commit, tools.resolveRef s.world (s.world.absolute q.repository) q.ref
              = .ok (some ⟨commit, false⟩) →
            shown = false)) := by
  cases result with
  | reused m warnings =>
    obtain ⟨hsame, state, hsettled⟩ := exists_settled_of_reused hrun
    have hiff : Reuses tools options generation q u m ↔ _ := reuses_iff hplace hsettled hlater
    refine ⟨hiff, fun shown hworld _ => hiff.trans (and_congr_right fun _ => ?_)⟩
    rw [hworld, hsame]
    exact ⟨fun _ hsaved => (nomatch hsaved), fun _ => rfl⟩
  | regenerated g metadata warnings =>
    obtain ⟨state, hsaved⟩ :=
      exists_saved hsearches hworkers hplace hproper hlength hrun hpartial hproto
    have hiff : Reuses tools options generation q u ⟨metadata, g.model⟩ ↔ _ :=
      reuses_iff hplace hsaved.toSettled hlater
    refine ⟨hiff, fun shown hworld hnotices => hiff.trans (and_congr_right fun _ => ?_)⟩
    rw [hworld, resolveRef_eq_iff hsaved hnotices, hsaved.resolved]
    constructor
    · intro hshows _ commit hstate
      obtain rfl := Except.ok.inj hstate
      exact hshows rfl
    · intro hshows hclean
      match state, hclean with
      | some ⟨commit, false⟩, _ =>
        exact hshows (congrArg (fun b => !b) hpartial) commit rfl

/-! ## The standard tools -/

/-- A scan passes over a path that ends with none of the extensions, where case does not count. -/
lemma passesOver_of_extensions {registered : List Text} {directory path : Text}
    (hextensions : ∀ e ∈ options.extensions.getD registered, IsExtension e)
    (hpath : ∀ e ∈ options.extensions.getD registered,
      ¬ e.map Text.capital <:+ path.map Text.capital)
    (hslash : path.getLast? ≠ some Text.slash) :
    PassesOver Glob.selects options registered directory path := by
  rintro rest rfl
  rw [Bool.eq_false_iff]
  intro hselects
  have hrest : rest.getLast? ≠ some Text.slash := by
    intro h
    exact hslash (by rw [List.getLast?_append, h]; rfl)
  obtain ⟨e, he, hsuffix⟩ := exists_extension_of_selects hextensions hselects hrest
  refine hpath e he (hsuffix.trans ?_)
  rw [List.map_append]
  exact List.suffix_append _ _

/-- After a refresh that was not cancelled, as long as no source file changes, a refresh uses its
model again exactly if this is wanted and the directory is in the state in which the first refresh
found it: at the same commit and clean, at the same commit and dirty, or outside version control.
Right after the first refresh it does so, unless the model was saved in a work tree that was clean
and that shows the file of the model. -/
theorem refresh_again {result : RefreshResult}
    (hworkers : ∀ script, generation.workers = some script → script = WorkerScript.indexing)
    (hplace : HasPlace standard Glob.selects options q s)
    (hproper : ∀ file ∈ standard.picked options s.registry.extensions s.world
        (s.world.absolute q.repository),
      Index.IsProperIn (Generation.viewOf generation s.registry) file)
    (hlength : ∀ file ∈ standard.picked options s.registry.extensions s.world
        (s.world.absolute q.repository), file.content.length < Text.maxLength)
    (hrun : (refresh (standard.collaborators options generation) q).run s = (.ok result, t))
    (hpartial : isPartial result = false)
    (hproto : Text.ofString "__proto__" ∉ result.model.files.map Prod.fst)
    (hlater : SameSources standard options q s t u) :
    (Reuses standard options generation q u ⟨result.metadata, result.model⟩
      ↔ q.force = false
        ∧ standard.resolveRef u.world (s.world.absolute q.repository) q.ref
          = standard.resolveRef s.world (s.world.absolute q.repository) q.ref)
    ∧ (u.world = t.world →
      Git.isInternal (s.world.absolute q.outputPath) = false →
      (∀ r, repositoryOf? s.world (s.world.absolute q.repository) = some r →
        Git.IsApart r s.world.files (s.world.absolute q.outputPath)) →
      (Reuses standard options generation q u ⟨result.metadata, result.model⟩
        ↔ q.force = false
          ∧ (Refresh.hasSaved (.ok result) = true →
            ∀ commit, standard.resolveRef s.world (s.world.absolute q.repository) q.ref
              = .ok (some ⟨commit, false⟩) →
            showsIn s.world (s.world.absolute q.repository) (s.world.absolute q.outputPath)
              = false))) := by
  obtain ⟨hiff, hagain⟩ := reuses_again_iff searches_standard hworkers hplace hproper hlength hrun
    hpartial hproto hlater
  exact ⟨hiff, fun hworld hinternal hapart => hagain _ hworld fun _ _ hadds =>
    notices_of_adds hadds hinternal hplace.directory hapart⟩

/-! ## Clean work trees -/

/-- A registry with an adapter for one extension, which reads a text as an import. -/
def sourceRegistry : Registry where
  entries :=
    [(".p", { languageId := "plain"
              factory := .ok { languageId := "plain", outline := fun t _ => .ok { imports := [t] } }
              builtin := false })]

/-- A source file. -/
def sourceFile : SourceFile where
  path := "a.p"
  content := "x"

/-- A commit of this file. -/
def sourceCommit : GitCommit where
  id := someId
  message := []
  tree := [(sourceFile.path, sourceFile.content)]

/-- The repository with this commit. -/
def sourceRepository : GitRepository where
  top := "/r"
  commits := [sourceCommit]
  index := sourceCommit.tree

/-- A session on the clean work tree of this repository. -/
def sourceSession : Session Workspace where
  host := default
  world :=
    { directory := "/r"
      files := ⟨[("/r", .directory), ("/r/a.p", .file sourceFile.content), ("/r/.git", .directory),
        ("/r/.git/HEAD", .file (someId ++ [Text.newline])), ("/r/.git/objects", .directory),
        ("/r/.git/refs", .directory), ("/r/.git/index", .file Git.indexMark)]⟩
      git := some sourceRepository }
  registry := sourceRegistry

/-- A request that keeps the model at a path. -/
def keptAt (outputPath : Text) : RefreshRequest where
  repository := "/r"
  ref := Git.headName
  outputPath

/-- A path beside the work tree. -/
def beside : Text := "/m.json"

/-- A path inside the work tree. -/
def within : Text := "/r/m.json"

lemma repositoryOf?_sourceSession :
    repositoryOf? sourceSession.world "/r" = some sourceRepository := by
  decide

/-- A model has a place beside the work tree and inside it. -/
lemma hasPlace_sourceSession {path : Text} (hpath : path = beside ∨ path = within) :
    HasPlace standard Glob.selects allFiles (keptAt path) sourceSession where
  sound := ⟨by decide, by decide, by decide⟩
  directory := show sourceSession.world.files.isDirectory (sourceSession.world.absolute "/r") = true
    by decide
  length := by
    refine (records_standard fun r hr => ?_).length
    obtain rfl := Option.some.inj (repositoryOf?_sourceSession.symm.trans hr)
    decide
  name := by rcases hpath with rfl | rfl <;> decide
  process := by decide
  draft := by rcases hpath with rfl | rfl <;> decide
  passedOver := by
    have hextensions : ∀ e ∈ allFiles.extensions.getD sourceSession.registry.extensions,
        IsExtension e := by
      show ∀ e ∈ [Text.ofString ".p"], IsExtension e
      rw [List.forall_mem_singleton]
      exact ⟨"p", rfl, by decide, List.all_eq_true.mp (by decide)⟩
    apply passesOver_of_extensions hextensions <;> rcases hpath with rfl | rfl <;> decide

lemma eq_of_opening_append {path rest : Text} (hpath : path = beside ∨ path = within)
    (h : FileSystem.opening "/r" ++ rest = path) : rest = "m.json" := by
  rcases hpath with rfl | rfl
  · have hprefix : (FileSystem.opening "/r").isPrefixOf beside = true :=
      List.isPrefixOf_iff_prefix.mpr ⟨rest, h⟩
    exact absurd hprefix (by decide)
  · exact List.append_cancel_left
      (h.trans (by decide : within = FileSystem.opening "/r" ++ Text.ofString "m.json"))

/-- Nothing is tracked and no rules are kept where the model is. -/
lemma isApart_sourceSession {path : Text} (hpath : path = beside ∨ path = within)
    {r : GitRepository} (h : repositoryOf? sourceSession.world "/r" = some r) :
    Git.IsApart r sourceSession.world.files path := by
  rw [repositoryOf?_sourceSession] at h
  obtain rfl := Option.some.inj h
  constructor
  · intro index hindex rest hrest
    obtain rfl := eq_of_opening_append hpath hrest
    have htracked : (Git.tracked sourceRepository sourceSession.world.files).toOption
        = some sourceCommit.tree := by
      decide
    rw [hindex] at htracked
    obtain rfl := Option.some.inj htracked
    decide
  · intro rest hrest
    obtain rfl := eq_of_opening_append hpath hrest
    decide
  · intro file hfile
    have hnone : ((Git.settings? sourceRepository sourceSession.world.files).bind
        GitConfig.ignoreFile?).isNone = true := by
      decide
    rw [hfile] at hnone
    cases hnone

/-- A file that is added there is noticed if the work tree shows it. -/
lemma notices_sourceSession {path : Text} (hpath : path = beside ∨ path = within) (content : Text)
    (files : FileSystem) (hadds : FileSystem.Adds path content sourceSession.world.files files) :
    Notices standard "/r" Git.headName (showsIn sourceSession.world "/r" path)
      sourceSession.world { sourceSession.world with files } :=
  notices_of_adds hadds (by rcases hpath with rfl | rfl <;> decide) (by decide)
    fun _ hr => isApart_sourceSession hpath hr

/-- The work tree is clean. -/
lemma resolveRef_sourceSession :
    standard.resolveRef sourceSession.world "/r" Git.headName = .ok (some ⟨someId, false⟩) :=
  Except.eq_ok_of_toOption (by decide +kernel)

/-- The files of the work tree are short, and none of them has a forbidden path. -/
lemma of_mem_picked_sourceSession {file : SourceFile}
    (hfile : file ∈ standard.picked allFiles sourceRegistry.extensions sourceSession.world "/r") :
    file.content.length < Text.maxLength
      ∧ Path.normalize file.path ≠ Text.ofString "__proto__" := by
  have hfiles : ∀ g ∈ sourceSession.world.files.filesIn "/r",
      (source g).content.length < Text.maxLength
        ∧ Path.normalize (source g).path ≠ Text.ofString "__proto__" := by
    decide
  obtain ⟨g, hg, rfl⟩ := searches_standard.exists_mem_filesIn hfile
  exact hfiles g hg

lemma isWritable_sourceSession {path : Text} (hpath : path = beside ∨ path = within) :
    ModelFile.IsWritable sourceSession.world path
      (ModelFile.temporary path sourceSession.host.process) := by
  rcases hpath with rfl | rfl <;> exact ⟨by decide, by decide, by decide, by decide, by decide⟩

lemma loaded_sourceSession {path : Text} (hpath : path = beside ∨ path = within) :
    ModelFile.loaded sourceSession.world path = .ok none := by
  rcases hpath with rfl | rfl <;> rfl

/-- The adapter of the registry says proper things of every file. -/
lemma isProperIn_sourceRegistry (file : SourceFile) :
    Index.IsProperIn (Generation.viewOf {} sourceRegistry) file := by
  apply Index.isProperIn_of_forall
  intro e he adapter hadapter
  obtain rfl := List.mem_singleton.mp he
  obtain rfl := Offer.adapter.inj hadapter
  refine ⟨by decide, fun content path outline houtline => ?_⟩
  obtain rfl := Except.ok.inj houtline
  exact ⟨fun d hd => (nomatch hd), fun c hc => (nomatch hc)⟩

/-- It throws nothing. -/
lemma isCalm_sourceRegistry : Generation.IsCalm sourceRegistry.view := by
  intro e he adapter hadapter content path thrown hthrown
  obtain rfl := List.mem_singleton.mp he
  obtain rfl := Offer.adapter.inj hadapter
  cases hthrown

lemma noWorkers (script : WorkerScript) (h : GenerateOptions.workers {} = some script) :
    script = WorkerScript.indexing :=
  nomatch h

/-- The first refresh generates a model. -/
lemma exists_regenerated_sourceSession {path : Text} (hpath : path = beside ∨ path = within) :
    ∃ g metadata warnings t,
      (refresh (standard.collaborators allFiles {}) (keptAt path)).run sourceSession
        = (.ok (.regenerated g metadata warnings), t)
      ∧ g.cancelled = false ∧ Text.ofString "__proto__" ∉ g.model.files.map Prod.fst := by
  have hscans : (standard.scanned allFiles sourceRegistry.extensions sourceSession.world
      "/r").toOption.isSome = true := by
    decide +kernel
  obtain ⟨files, hscan⟩ := Option.isSome_iff_exists.mp hscans
  replace hscan := Except.eq_ok_of_toOption hscan
  have hcalm : Generation.IsCalm sourceSession.registry.view := isCalm_sourceRegistry
  have habort : GenerateOptions.abortAfter {} = none := rfl
  obtain ⟨g, hg, hcancelled⟩ := Generation.exists_generate rfl habort hcalm files
  obtain ⟨metadata, warnings, t, hrun⟩ := exists_regenerated (q := keptAt path)
    noWorkers (loaded_sourceSession hpath) resolveRef_sourceSession hscan hg hcancelled
    (isWritable_sourceSession hpath)
  refine ⟨g, metadata, warnings, t, hrun, hcancelled, fun hproto => ?_⟩
  obtain ⟨⟨key, m⟩, hm, hkey⟩ := List.mem_map.mp hproto
  obtain ⟨file, hfile, hindexed⟩ := Generation.exists_outcomeIn_of_mem_files noWorkers hg hm
  rw [eq_of_scanned_eq_ok hscan] at hfile
  exact (of_mem_picked_sourceSession hfile).2
    ((Index.path_of_outcomeIn_eq_indexed hindexed).symm.trans hkey)

/-- A model that is kept beside a clean work tree is used again right after it was saved. -/
theorem refresh_again_beside : ∃ g metadata warnings t,
    (refresh (standard.collaborators allFiles {}) (keptAt beside)).run sourceSession
        = (.ok (.regenerated g metadata warnings), t)
      ∧ Reuses standard allFiles {} (keptAt beside) { sourceSession with world := t.world }
          ⟨metadata, g.model⟩ := by
  have hplace := hasPlace_sourceSession (.inl rfl)
  obtain ⟨g, metadata, warnings, t, hrun, hcancelled, hproto⟩ :=
    exists_regenerated_sourceSession (.inl rfl)
  have hlength : ∀ file ∈ standard.picked allFiles sourceRegistry.extensions sourceSession.world
      "/r", file.content.length < Text.maxLength :=
    fun file hfile => (of_mem_picked_sourceSession hfile).1
  obtain ⟨state, hsaved⟩ := exists_saved searches_standard noWorkers hplace
    (fun file _ => isProperIn_sourceRegistry file) hlength hrun hcancelled hproto
  have hlater := sameSources_of_saved hplace hsaved (notices_sourceSession (.inl rfl))
  have hinternal : Git.isInternal beside = false := by decide
  have hshows : showsIn sourceSession.world "/r" beside = false := by
    decide
  refine ⟨g, metadata, warnings, t, hrun, ?_⟩
  exact ((refresh_again noWorkers hplace (fun file _ => isProperIn_sourceRegistry file) hlength hrun
    hcancelled hproto hlater).2 rfl hinternal fun r hr => isApart_sourceSession (.inl rfl) hr).mpr
      ⟨rfl, fun _ _ _ => hshows⟩

/-- A model that is kept inside a clean work tree which shows its file is not used again, though no
source file has changed. -/
theorem refresh_again_inside :
    HasPlace standard Glob.selects allFiles (keptAt within) sourceSession
    ∧ ∃ g metadata warnings t,
      (refresh (standard.collaborators allFiles {}) (keptAt within)).run sourceSession
          = (.ok (.regenerated g metadata warnings), t)
        ∧ g.cancelled = false
        ∧ SameSources standard allFiles (keptAt within) sourceSession t
            { sourceSession with world := t.world }
        ∧ ∀ m, ¬ Reuses standard allFiles {} (keptAt within)
            { sourceSession with world := t.world } m := by
  have hplace := hasPlace_sourceSession (.inr rfl)
  refine ⟨hplace, ?_⟩
  obtain ⟨g, metadata, warnings, t, hrun, hcancelled, hproto⟩ :=
    exists_regenerated_sourceSession (.inr rfl)
  obtain ⟨state, hsaved⟩ := exists_saved searches_standard noWorkers hplace
    (fun file _ => isProperIn_sourceRegistry file)
    (fun file hfile => (of_mem_picked_sourceSession hfile).1) hrun hcancelled hproto
  have hnotices := notices_sourceSession (.inr rfl)
  have hlater := sameSources_of_saved hplace hsaved hnotices
  have hshows : showsIn sourceSession.world "/r" within = true := by
    decide +kernel
  refine ⟨g, metadata, warnings, t, hrun, hcancelled, hlater, fun m hreuses => ?_⟩
  obtain rfl := hreuses.eq_of_settled hsaved.toSettled hlater
  obtain ⟨-, hstate⟩ := (reuses_iff hplace hsaved.toSettled hlater).mp hreuses
  have hhidden := (resolveRef_eq_iff hsaved hnotices).mp hstate
  have hclean := Except.ok.inj (hsaved.resolved.symm.trans resolveRef_sourceSession)
  have hnot : showsIn sourceSession.world "/r" within = false := hhidden (hclean ▸ rfl)
  rw [hshows] at hnot
  cases hnot

end Checkout

end CallAtlas
