import CallAtlas.Proofs.Digest.FileSet
import CallAtlas.Proofs.Workspace.Scan

/-!
# What a fingerprint tells

The id of a commit has 40 digits and the digest of files 64, so that a fingerprint shows how it was
made: from a clean work tree, from a dirty one or outside version control. Where a digest is part of
it, it tells all files that a scan picks up.
-/

namespace CallAtlas

namespace Checkout

variable {tools : Tools} {options : CheckoutOptions} {registered : List Text}
  {w w₁ w₂ : Workspace} {directory : Text} {files files₁ files₂ : List SourceFile}

/-! ## The provider as a function -/

/-- What is fetched of a directory in a given state. -/
def snapshotOf (directory ref : Text) (state : Option GitState) (files : List SourceFile) :
    Snapshot Workspace where
  files
  fingerprint := some (fingerprintOf state files)
  ref
  release := Job.note .debug "Released local snapshot"
    [("root", .str directory), ("ref", .str ref)]

/-- What fetching gives. -/
def Tools.fetched (tools : Tools) (options : CheckoutOptions) (registered : List Text)
    (w : Workspace) (repository ref : Text) : Outcome (Snapshot Workspace) := do
  let state ← tools.resolveRef w (w.absolute repository) ref
  let files ← tools.scanned options registered w (w.absolute repository)
  return snapshotOf (w.absolute repository) ref state files

/-- Is a work tree clean? -/
def isClean (state : Option GitState) : Bool := state.any fun s => !s.dirty

/-- The fingerprint that a lookup gives. -/
def Tools.lookedUp (tools : Tools) (options : CheckoutOptions) (registered : List Text)
    (w : Workspace) (repository ref : Text) : Outcome (Option Text) := do
  let state ← tools.resolveRef w (w.absolute repository) ref
  if isClean state then return some (fingerprintOf state [])
  else
    let files ← tools.scanned options registered w (w.absolute repository)
    return some (fingerprintOf state files)

/-- The files make no difference in a clean work tree. -/
lemma fingerprintOf_of_isClean {state : Option GitState} (h : isClean state = true)
    (files files' : List SourceFile) : fingerprintOf state files = fingerprintOf state files' := by
  match state, h with
  | some ⟨commit, false⟩, _ => rfl

/-- A lookup gives the fingerprint of the files that a scan gives, if it needs a scan. -/
lemma lookedUp_eq {repository ref : Text} {state : Option GitState} {files : List SourceFile}
    (hstate : tools.resolveRef w (w.absolute repository) ref = .ok state)
    (hscan : isClean state = false →
      tools.scanned options registered w (w.absolute repository) = .ok files) :
    tools.lookedUp options registered w repository ref
      = .ok (some (fingerprintOf state files)) := by
  show (tools.resolveRef w (w.absolute repository) ref).bind _ = _
  rw [hstate]
  show (if isClean state then _ else _) = _
  by_cases hclean : isClean state = true
  · rw [if_pos hclean, fingerprintOf_of_isClean hclean [] files]
    rfl
  · rw [if_neg hclean, hscan (Bool.eq_false_iff.mpr hclean)]
    rfl

/-- A lookup with a fingerprint tells the state and, unless that is clean, the files. -/
lemma of_lookedUp {repository ref fingerprint : Text}
    (h : tools.lookedUp options registered w repository ref = .ok (some fingerprint)) :
    ∃ state, tools.resolveRef w (w.absolute repository) ref = .ok state
      ∧ fingerprint = fingerprintOf state
          (tools.picked options registered w (w.absolute repository))
      ∧ (isClean state = false → tools.scanned options registered w (w.absolute repository)
          = .ok (tools.picked options registered w (w.absolute repository))) := by
  unfold Tools.lookedUp at h
  cases hstate : tools.resolveRef w (w.absolute repository) ref with
  | error thrown =>
    rw [hstate] at h
    cases h
  | ok state =>
    rw [hstate] at h
    replace h : (if isClean state then .ok (some (fingerprintOf state []))
        else (tools.scanned options registered w (w.absolute repository)).bind fun files =>
          .ok (some (fingerprintOf state files)) : Outcome (Option Text))
        = .ok (some fingerprint) := h
    refine ⟨state, rfl, ?_⟩
    by_cases hclean : isClean state = true
    · rw [if_pos hclean] at h
      obtain rfl := Option.some.inj (Except.ok.inj h)
      refine ⟨fingerprintOf_of_isClean hclean _ _, fun hdirty => ?_⟩
      rw [hclean] at hdirty
      cases hdirty
    · rw [if_neg hclean] at h
      cases hscan : tools.scanned options registered w (w.absolute repository) with
      | error thrown =>
        rw [hscan] at h
        cases h
      | ok files =>
        rw [hscan] at h
        rw [← eq_of_scanned_eq_ok hscan]
        exact ⟨(Option.some.inj (Except.ok.inj h)).symm, fun _ => rfl⟩

/-- What is fetched are the files of the directory in its state. -/
lemma of_fetched {repository ref : Text} {snapshot : Snapshot Workspace}
    (h : tools.fetched options registered w repository ref = .ok snapshot) :
    ∃ state, tools.resolveRef w (w.absolute repository) ref = .ok state
      ∧ tools.scanned options registered w (w.absolute repository)
          = .ok (tools.picked options registered w (w.absolute repository))
      ∧ snapshot = snapshotOf (w.absolute repository) ref state
          (tools.picked options registered w (w.absolute repository)) := by
  unfold Tools.fetched at h
  cases hstate : tools.resolveRef w (w.absolute repository) ref with
  | error thrown =>
    rw [hstate] at h
    cases h
  | ok state =>
    cases hscan : tools.scanned options registered w (w.absolute repository) with
    | error thrown =>
      rw [hstate, hscan] at h
      cases h
    | ok files =>
      rw [hstate, hscan] at h
      rw [← eq_of_scanned_eq_ok hscan]
      exact ⟨state, rfl, rfl, (Except.ok.inj h).symm⟩

/-- The state of a work tree is read from the workspace alone. -/
lemma stateOf_reads (tools : Tools) (directory ref : Text) :
    Job.Reads (tools.stateOf directory ref) fun _ w _ => tools.resolveRef w directory ref :=
  Job.Reads.world.bind fun w => .ofOutcome (tools.resolveRef w directory ref)

/-- Fetching changes nothing but the log, and it depends on the workspace and the extensions of the
registry alone. -/
theorem fetch_reads (tools : Tools) (options : CheckoutOptions) (repository ref : Text) :
    Job.Reads (tools.fetch options repository ref) fun _ w r =>
      tools.fetched options r.extensions w repository ref := by
  have hfrom : ∀ directory, Job.Reads
      (tools.stateOf directory ref >>= fun state => tools.scan options directory >>= fun files =>
        Job.note .info "Loaded local checkout"
          [("root", .str directory), ("ref", .str ref), ("files", Json.ofNat files.length),
            ("git", .bool state.isSome)]
        >>= fun _ => pure (snapshotOf directory ref state files))
      fun _ w r => (tools.resolveRef w directory ref).bind fun state =>
        (tools.scanned options r.extensions w directory).bind fun files =>
          .ok (snapshotOf directory ref state files) := fun directory =>
    (stateOf_reads tools directory ref).bind fun state =>
      (scan_reads tools options directory).bind fun files => .behind (.note _ _ _) (.give _)
  exact ⟨fun s => (hfrom (s.world.absolute repository)).outcome s,
    fun s => (hfrom (s.world.absolute repository)).same s⟩

/-- The rest of a lookup when the state of the work tree is known. -/
def Tools.lookUpIn (tools : Tools) (options : CheckoutOptions) (directory : Text)
    (state : Option GitState) : Job Workspace (Option Text) :=
  match state with
  | some ⟨commit, false⟩ => pure (some commit)
  | state => tools.scan options directory >>= fun files => pure (some (fingerprintOf state files))

lemma lookUpIn_reads (tools : Tools) (options : CheckoutOptions) (directory : Text)
    (state : Option GitState) :
    Job.Reads (tools.lookUpIn options directory state) fun _ w r =>
      if isClean state then .ok (some (fingerprintOf state []))
      else (tools.scanned options r.extensions w directory).bind fun files =>
        .ok (some (fingerprintOf state files)) := by
  match state with
  | some ⟨commit, false⟩ => exact .give _
  | some ⟨commit, true⟩ => exact (scan_reads tools options directory).bind fun files => .give _
  | none => exact (scan_reads tools options directory).bind fun files => .give _

/-- A lookup changes nothing but the log, and it depends on the workspace and the extensions of the
registry alone. -/
theorem lookUp_reads (tools : Tools) (options : CheckoutOptions) (repository ref : Text) :
    Job.Reads (tools.lookUp options repository ref) fun _ w r =>
      tools.lookedUp options r.extensions w repository ref := by
  have hfrom := fun directory =>
    (stateOf_reads tools directory ref).bind (lookUpIn_reads tools options directory)
  exact ⟨fun s => (hfrom (s.world.absolute repository)).outcome s,
    fun s => (hfrom (s.world.absolute repository)).same s⟩

/-! ## Kinds of fingerprints -/

/-- Is what stands in a state the id of a commit, by its length? -/
def HasId (state : Option GitState) : Prop := ∀ s ∈ state, s.commit.length = Git.idLength

lemma length_digestOf (files : List SourceFile) : (digestOf files).length = 64 :=
  Digest.length_ofBytes _

/-- The length of a fingerprint shows how it was made. -/
lemma length_fingerprintOf {state : Option GitState} (hid : HasId state)
    (files : List SourceFile) :
    (fingerprintOf state files).length
      = match state with
        | none => 64
        | some ⟨_, true⟩ => 105
        | some ⟨_, false⟩ => 40 := by
  match state with
  | none => exact length_digestOf files
  | some ⟨commit, true⟩ =>
    have hcommit : commit.length = 40 := hid _ rfl
    show (commit ++ Text.unit '+' :: digestOf files).length = 105
    rw [List.length_append, List.length_cons, length_digestOf, hcommit]
  | some ⟨commit, false⟩ => exact hid _ rfl

/-- Fingerprints that are the same come from the same commit, in two clean work trees, or they hold
the same digest. -/
theorem fingerprintOf_inj {state₁ state₂ : Option GitState} (hid₁ : HasId state₁)
    (hid₂ : HasId state₂) (h : fingerprintOf state₁ files₁ = fingerprintOf state₂ files₂) :
    (isClean state₁ = true ∧ state₁ = state₂)
    ∨ (isClean state₁ = false ∧ isClean state₂ = false ∧ digestOf files₁ = digestOf files₂) := by
  -- Fingerprints of different kinds have different lengths.
  have hlength := congrArg List.length h
  rw [length_fingerprintOf hid₁, length_fingerprintOf hid₂] at hlength
  match state₁, state₂ with
  | some ⟨commit, false⟩, some ⟨commit', false⟩ =>
    obtain rfl : commit = commit' := h
    exact .inl ⟨rfl, rfl⟩
  | some ⟨commit, true⟩, some ⟨commit', true⟩ =>
    have hcommits : commit.length = commit'.length := (hid₁ _ rfl).trans (hid₂ _ rfl).symm
    have htail := (List.append_inj (show commit ++ Text.unit '+' :: digestOf files₁
      = commit' ++ Text.unit '+' :: digestOf files₂ from h) hcommits).2
    exact .inr ⟨rfl, rfl, (List.cons.inj htail).2⟩
  | none, none => exact .inr ⟨rfl, rfl, h⟩
  | some ⟨_, false⟩, some ⟨_, true⟩ | some ⟨_, true⟩, some ⟨_, false⟩ | some ⟨_, false⟩, none
  | none, some ⟨_, false⟩ | some ⟨_, true⟩, none | none, some ⟨_, true⟩ => cases hlength

/-- Fingerprints that are the same come from the same state. -/
theorem state_eq_of_fingerprintOf_eq {state₁ state₂ : Option GitState} (hid₁ : HasId state₁)
    (hid₂ : HasId state₂) (h : fingerprintOf state₁ files₁ = fingerprintOf state₂ files₂) :
    state₁ = state₂ := by
  rcases fingerprintOf_inj hid₁ hid₂ h with ⟨-, hstate⟩ | ⟨hdirty₁, hdirty₂, -⟩
  · exact hstate
  · have hlength := congrArg List.length h
    rw [length_fingerprintOf hid₁, length_fingerprintOf hid₂] at hlength
    match state₁, state₂ with
    | none, none => rfl
    | some ⟨commit, true⟩, some ⟨commit', true⟩ =>
      have hcommits : commit.length = commit'.length := (hid₁ _ rfl).trans (hid₂ _ rfl).symm
      have hcommit : commit = commit' := (List.append_inj (show commit ++ Text.unit '+' ::
        digestOf files₁ = commit' ++ Text.unit '+' :: digestOf files₂ from h) hcommits).1
      rw [hcommit]
    | none, some ⟨_, true⟩ | some ⟨_, true⟩, none => cases hlength

/-- A fingerprint is not empty. -/
lemma fingerprintOf_ne_nil {state : Option GitState} (hid : HasId state)
    (files : List SourceFile) : fingerprintOf state files ≠ [] := by
  intro h
  have hlength := length_fingerprintOf hid files
  rw [h] at hlength
  match state with
  | none | some ⟨_, true⟩ | some ⟨_, false⟩ => cases hlength

/-! ## What a digest tells -/

/-- The texts that are hashed for the digest of source files. -/
def hashedFor (files : List SourceFile) : List Text :=
  Digest.hashed Digest.ofText (files.map fun f => (f.path, f.content))

/-- The hash collides on no two texts that are hashed for two lists of source files. -/
def CollisionFree (files₁ files₂ : List SourceFile) : Prop :=
  ∀ s ∈ hashedFor files₁, ∀ t ∈ hashedFor files₂, Digest.ofText s = Digest.ofText t → s = t

/-- The order of the files makes no difference to a fingerprint. -/
lemma fingerprintOf_eq_of_perm (state : Option GitState) (h : files₁.Perm files₂) :
    fingerprintOf state files₁ = fingerprintOf state files₂ := by
  have hdigest : digestOf files₁ = digestOf files₂ :=
    congrArg Digest.ofText (Digest.joined_eq_of_perm (h.map fun f => (f.path, f.content)))
  unfold fingerprintOf
  rw [hdigest]

/-- Scans with the same digest pick up the same files, unless the hash collides on two texts that
were hashed for them. -/
theorem picked_perm_of_digestOf_eq
    {selects : (patterns ignore : List Text) → (directory path : Text) → Bool}
    (hsearches : Searches tools selects) (h₁ : w₁.files.Sound) (h₂ : w₂.files.Sound)
    (hcollision : CollisionFree (tools.picked options registered w₁ directory)
      (tools.picked options registered w₂ directory))
    (h : digestOf (tools.picked options registered w₁ directory)
      = digestOf (tools.picked options registered w₂ directory)) :
    (tools.picked options registered w₂ directory).Perm
      (tools.picked options registered w₁ directory) := by
  have hzero : ∀ {w : Workspace}, w.files.Sound →
      ∀ f ∈ (tools.picked options registered w directory).map fun f => (f.path, f.content),
        (0 : CodeUnit) ∉ f.1 := by
    intro w hw f hf
    obtain ⟨file, hfile, rfl⟩ := List.mem_map.mp hf
    exact hsearches.zero_notMem hw hfile
  -- No language is stated for what is picked up, so path and content make the source file.
  have hback : ∀ w : Workspace, ((tools.picked options registered w directory).map fun f =>
      (f.path, f.content)).map (fun f => ({ path := f.1, content := f.2 } : SourceFile))
        = tools.picked options registered w directory := by
    intro w
    have hid : ∀ f ∈ tools.picked options registered w directory,
        ((fun f : Text × Text => ({ path := f.1, content := f.2 } : SourceFile)) ∘
          fun f => (f.path, f.content)) f = id f := by
      intro f hf
      obtain ⟨g, -, rfl⟩ := List.mem_map.mp (picked_perm.mem_iff.mp hf)
      rfl
    rw [List.map_map, List.map_congr_left hid, List.map_id]
  have hperm := Digest.perm_of_fileSetWith_eq (fun t => Digest.length_ofBytes t.toUtf8)
    (hzero h₁) (hzero h₂) hcollision h
  rw [← hback w₁, ← hback w₂]
  exact (hperm.map _).symm

end Checkout

end CallAtlas
