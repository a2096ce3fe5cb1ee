import CallAtlas.Proofs.Workspace.Fingerprint

/-!
# What a commit tells of a clean work tree

The tracked files of a clean work tree are those of the commit. A scan of the work tree also picks
up ignored files, of which the commit tells nothing; so two scans at the same commit pick up the
same files exactly if they pick up the same ignored ones.

This holds of any tools that keep the files of a commit by its id and call a work tree clean only if
these files are in their places. The standard tools are such tools.
-/

namespace CallAtlas

namespace Git

variable {r : GitRepository} {fs : FileSystem}

/-- The files of the commit that is checked out, by their paths from the top. -/
def headFiles (r : GitRepository) (fs : FileSystem) : List (Text × Text) :=
  ((head? r fs).map GitCommit.tree).getD []

/-- Trees that are the same have the same files. -/
lemma lookup_eq_of_sameTree {a b : List (Text × Text)} (h : sameTree a b = true) {f : Text × Text}
    (hf : f ∈ a) : b.lookup f.1 = some f.2 := by
  rw [sameTree, Bool.and_eq_true, List.all_eq_true] at h
  exact beq_iff_eq.mp (h.2 f hf)

/-- In a clean work tree, the index is the tree of the commit, and its files are in their places. -/
lemma isDirty_eq_false (h : isDirty r fs = .ok false) :
    ∃ index, sameTree (headFiles r fs) index = true
      ∧ ∀ f ∈ index, (workFiles r fs).lookup f.1 = some f.2 := by
  unfold isDirty at h
  cases hshows : GitConfig.showsUntracked ((settings? r fs).getD []) with
  | error said =>
    rw [hshows] at h
    cases h
  | ok showsUntracked =>
    cases htracked : tracked r fs with
    | error said =>
      rw [hshows, htracked] at h
      cases h
    | ok index =>
      rw [hshows, htracked] at h
      have hclean := Except.ok.inj h
      rw [Bool.or_eq_false_iff, Bool.or_eq_false_iff, Bool.not_eq_false'] at hclean
      refine ⟨index, hclean.1.1, fun f hf => ?_⟩
      have hfile := List.any_eq_false.mp hclean.1.2 f hf
      simpa using hfile

/-- A file of the commit is in its place in a clean work tree. -/
theorem mem_filesIn_of_isDirty_eq_false (h : isDirty r fs = .ok false) {path content : Text}
    (hfile : (headFiles r fs).lookup path = some content) :
    (path, content) ∈ fs.filesIn r.top := by
  obtain ⟨index, hsame, hplace⟩ := isDirty_eq_false h
  have hindex : index.lookup path = some content :=
    lookup_eq_of_sameTree hsame (mem_of_lookup_eq_some hfile)
  have hwork := hplace _ (mem_of_lookup_eq_some hindex)
  exact (List.mem_filter.mp (mem_of_lookup_eq_some hwork)).1

/-- The id that a text begins with has the length of one. -/
lemma length_of_id?_eq_some (hlength : ∀ c ∈ r.commits, c.id.length = idLength) {content id : Text}
    (h : id? r content = some id) : id.length = idLength := by
  rw [id?] at h
  simp only [Option.ite_none_right_eq_some, Option.some.injEq] at h
  obtain ⟨hid, rfl⟩ := h
  rw [isId, Bool.or_eq_true, Bool.and_eq_true, decide_eq_true_eq] at hid
  rcases hid with hcommit | ⟨hdigits, -⟩
  · obtain ⟨c, hc⟩ := Option.isSome_iff_exists.mp hcommit
    have hsame := List.find?_some hc
    rw [decide_eq_true_eq] at hsame
    rw [← hsame]
    exact hlength c (List.mem_of_find?_eq_some hc)
  · exact hdigits

/-- The id that is checked out has the length of an id. -/
lemma length_of_headId?_eq_some (hlength : ∀ c ∈ r.commits, c.id.length = idLength) {id : Text}
    (h : headId? r fs = some id) : id.length = idLength := by
  -- A reference may lead to another one, but only an id ends the way.
  have hfollow : ∀ (n : Nat) (name : Text) (found : Text × Text),
      follow? r fs n name = some found → found.2.length = idLength := by
    intro n
    induction n with
    | zero =>
      intro name found hfound
      cases hfound
    | succ n ih =>
      intro name found hfound
      rw [follow?] at hfound
      split at hfound
      · cases hfound
      · obtain ⟨content, -, hcontent⟩ := Option.bind_eq_some_iff.mp hfound
        split at hcontent
        · exact ih _ _ hcontent
        · obtain ⟨id, hid, rfl⟩ := Option.map_eq_some_iff.mp hcontent
          exact length_of_id?_eq_some hlength hid
  obtain ⟨found, hfound, rfl⟩ := Option.map_eq_some_iff.mp h
  exact hfollow _ _ _ hfound

end Git

namespace Checkout

variable {tools : Tools} {held : Workspace → (directory path : Text) → Option Text}
  {selects : (patterns ignore : List Text) → (directory path : Text) → Bool}
  {options : CheckoutOptions} {registered : List Text} {w w₁ w₂ : Workspace} {directory ref : Text}

/-! ## The state of a work tree -/

/-- A state is that of the work tree that the directory lies in. -/
lemma resolveRef_eq_some {s : GitState} (h : tools.resolveRef w directory ref = .ok (some s)) :
    tools.isInside w directory = true ∧ tools.head w directory = .ok s.commit
      ∧ tools.isDirty w directory = .ok s.dirty := by
  have hstate : tools.gitState w directory ref = .ok (some s) := by
    unfold Tools.resolveRef at h
    split at h
    · split at h <;> cases h
    · exact h
  unfold Tools.gitState at hstate
  split at hstate
  · rename_i hinside
    split at hstate
    · cases hstate
    · split at hstate
      · cases hstate
      · rename_i commit _ head hhead
        split at hstate
        · rename_i hat
          split at hstate
          · cases hstate
          · rename_i dirty hdirty
            obtain rfl := Option.some.inj (Except.ok.inj hstate)
            exact ⟨hinside, hat ▸ hhead, hdirty⟩
        · cases hstate
  · cases hstate

/-- What is assumed of version control at a moment, with the contents that the commit which is
checked out holds for the paths of a directory: a directory of a work tree is there, ids of commits
have forty digits, and a work tree is clean only if what the commit holds is in its place. -/
structure Records (tools : Tools) (held : Workspace → (directory path : Text) → Option Text)
    (w : Workspace) (directory : Text) : Prop where
  isDirectory : tools.isInside w directory = true → w.files.isDirectory directory = true
  length : ∀ id, tools.head w directory = .ok id → id.length = Git.idLength
  inPlace : tools.isInside w directory = true → tools.isDirty w directory = .ok false →
    ∀ path content, held w directory path = some content →
      (path, content) ∈ w.files.filesIn directory

/-- What is assumed of version control at two moments: the id of a commit tells what it holds. -/
structure Keeps (tools : Tools) (held : Workspace → (directory path : Text) → Option Text)
    (w₁ w₂ : Workspace) (directory : Text) : Prop where
  first : Records tools held w₁ directory
  second : Records tools held w₂ directory
  held_eq : ∀ id, tools.head w₁ directory = .ok id → tools.head w₂ directory = .ok id →
    held w₂ directory = held w₁ directory

/-- The id in the state of a work tree has the length of one. -/
lemma hasId_of_resolveRef
    (hlength : ∀ id, tools.head w directory = .ok id → id.length = Git.idLength)
    {state : Option GitState} (h : tools.resolveRef w directory ref = .ok state) :
    HasId state := by
  rintro s rfl
  exact hlength _ (resolveRef_eq_some h).2.1

/-! ## Recorded files -/

/-- The source files that are picked up though the commit does not hold them. -/
def Tools.unrecorded (tools : Tools) (held : Workspace → (directory path : Text) → Option Text)
    (options : CheckoutOptions) (registered : List Text) (w : Workspace) (directory : Text) :
    List SourceFile :=
  ((tools.accepted options registered w directory).filter fun f =>
    !(held w directory f.1).isSome).map source

/-- A file of the first moment is there at the second one if the commit holds the file of its path,
which is in its place at both. -/
lemma mem_filesIn_of_held (h : w₁.files.Sound) {f : Text × Text} {content : Text}
    (hplace₁ : (f.1, content) ∈ w₁.files.filesIn directory)
    (hplace₂ : (f.1, content) ∈ w₂.files.filesIn directory)
    (hf : f ∈ w₁.files.filesIn directory) : f ∈ w₂.files.filesIn directory := by
  -- No path leads to two files.
  have hsame : FileNode.file f.2 = .file content := eq_of_mem_of_nodup h.nodup
    (FileSystem.mem_filesIn.mp hf) (FileSystem.mem_filesIn.mp hplace₁)
  rw [← FileNode.file.inj hsame] at hplace₂
  exact hplace₂

/-- Clean work trees at the same commit have the same recorded files. -/
lemma filter_held_perm (options : CheckoutOptions) (registered : List Text)
    (hsearches : Searches tools selects) (h₁ : w₁.files.Sound) (h₂ : w₂.files.Sound)
    (hkeeps : Keeps tools held w₁ w₂ directory) {state : Option GitState}
    (hstate₁ : tools.resolveRef w₁ directory ref = .ok state)
    (hstate₂ : tools.resolveRef w₂ directory ref = .ok state) (hclean : isClean state = true) :
    ((tools.accepted options registered w₂ directory).filter fun f =>
        (held w₂ directory f.1).isSome).Perm
      ((tools.accepted options registered w₁ directory).filter fun f =>
        (held w₁ directory f.1).isSome) := by
  match state, hclean with
  | some ⟨commit, false⟩, _ =>
    obtain ⟨hinside₁, hhead₁, hclean₁⟩ := resolveRef_eq_some hstate₁
    obtain ⟨hinside₂, hhead₂, hclean₂⟩ := resolveRef_eq_some hstate₂
    have hplace₁ := hkeeps.first.inPlace hinside₁ hclean₁
    have hplace₂ := hkeeps.second.inPlace hinside₂ hclean₂
    rw [hkeeps.held_eq commit hhead₁ hhead₂] at hplace₂ ⊢
    have hnodup : ∀ {w : Workspace}, w.files.Sound →
        ((tools.accepted options registered w directory).filter fun f =>
          (held w₁ directory f.1).isSome).Nodup := fun h =>
      (hsearches.nodup_accepted h).of_map.filter _
    rw [List.perm_ext_iff_of_nodup (hnodup h₂) (hnodup h₁)]
    intro f
    rw [List.mem_filter, List.mem_filter]
    refine and_congr_left fun hin => ?_
    obtain ⟨content, hcontent⟩ := Option.isSome_iff_exists.mp hin
    have hf₁ := hplace₁ f.1 content hcontent
    have hf₂ := hplace₂ f.1 content hcontent
    constructor
    · intro hf
      exact hsearches.mem_accepted hf h₁ (hkeeps.first.isDirectory hinside₁)
        (mem_filesIn_of_held h₂ hf₂ hf₁ (hsearches.mem_filesIn hf))
    · intro hf
      exact hsearches.mem_accepted hf h₂ (hkeeps.second.isDirectory hinside₂)
        (mem_filesIn_of_held h₁ hf₁ hf₂ (hsearches.mem_filesIn hf))

/-- What is picked up are the recorded files and the other ones. -/
lemma picked_perm_append (tools : Tools)
    (held : Workspace → (directory path : Text) → Option Text) (options : CheckoutOptions)
    (registered : List Text) (w : Workspace) (directory : Text) :
    (tools.picked options registered w directory).Perm
      (((tools.accepted options registered w directory).filter fun f =>
          (held w directory f.1).isSome).map source
        ++ tools.unrecorded held options registered w directory) := by
  apply picked_perm.trans
  rw [Tools.unrecorded, ← List.map_append]
  exact (List.filter_append_perm _ _).symm.map source

/-- In clean work trees at the same commit, scans pick up the same files exactly if they pick up the
same ones that the commit does not hold. -/
theorem picked_perm_iff_of_isClean (options : CheckoutOptions) (registered : List Text)
    (hsearches : Searches tools selects) (h₁ : w₁.files.Sound) (h₂ : w₂.files.Sound)
    (hkeeps : Keeps tools held w₁ w₂ directory) {state : Option GitState}
    (hstate₁ : tools.resolveRef w₁ directory ref = .ok state)
    (hstate₂ : tools.resolveRef w₂ directory ref = .ok state) (hclean : isClean state = true) :
    (tools.picked options registered w₂ directory).Perm
        (tools.picked options registered w₁ directory)
      ↔ (tools.unrecorded held options registered w₂ directory).Perm
          (tools.unrecorded held options registered w₁ directory) := by
  have hrecorded := (filter_held_perm options registered hsearches h₁ h₂ hkeeps hstate₁ hstate₂
    hclean).map source
  have hparts₁ := picked_perm_append tools held options registered w₁ directory
  have hparts₂ := (picked_perm_append tools held options registered w₂ directory).trans
    (hrecorded.append_right _)
  constructor
  · intro hperm
    exact (List.perm_append_left_iff _).mp (hparts₂.symm.trans (hperm.trans hparts₁))
  · intro hperm
    exact hparts₂.trans ((hperm.append_left _).trans hparts₁.symm)

/-! ## What a fingerprint leaves open -/

/-- What is the same at two moments although a fingerprint does not tell it: the files that a clean
work tree holds beside its commit, and the order of the files that share a path. -/
structure SameUntold (tools : Tools) (held : Workspace → (directory path : Text) → Option Text)
    (options : CheckoutOptions) (registered : List Text) (directory : Text)
    (state : Option GitState) (w₁ w₂ : Workspace) : Prop where
  unrecorded_perm : isClean state = true →
    (tools.unrecorded held options registered w₂ directory).Perm
      (tools.unrecorded held options registered w₁ directory)
  shared_eq : ∀ path,
    1 < ((tools.picked options registered w₂ directory).filter fun f => f.path = path).length →
    ((tools.picked options registered w₂ directory).filter fun f => f.path = path)
      = (tools.picked options registered w₁ directory).filter fun f => f.path = path

/-- At two moments with the same fingerprint, the files that are picked up are the same exactly if
all is the same that the fingerprint leaves open. -/
theorem picked_eq_iff (hsearches : Searches tools selects) (h₁ : w₁.files.Sound)
    (h₂ : w₂.files.Sound) (hkeeps : Keeps tools held w₁ w₂ directory)
    {state₁ state₂ : Option GitState}
    (hstate₁ : tools.resolveRef w₁ directory ref = .ok state₁)
    (hstate₂ : tools.resolveRef w₂ directory ref = .ok state₂)
    (hcollision : isClean state₂ = false →
      CollisionFree (tools.picked options registered w₁ directory)
        (tools.picked options registered w₂ directory))
    (hfingerprint : (isClean state₁ = true ∧ state₁ = state₂)
      ∨ (isClean state₁ = false ∧ isClean state₂ = false
        ∧ digestOf (tools.picked options registered w₁ directory)
          = digestOf (tools.picked options registered w₂ directory))) :
    tools.picked options registered w₂ directory = tools.picked options registered w₁ directory
      ↔ SameUntold tools held options registered directory state₂ w₁ w₂ := by
  rcases hfingerprint with ⟨hclean, rfl⟩ | ⟨-, hdirty, hdigest⟩
  · have hiff := picked_perm_iff_of_isClean options registered hsearches h₁ h₂ hkeeps hstate₁
      hstate₂ hclean
    constructor
    · intro h
      refine ⟨fun _ => hiff.mp (h ▸ .refl _), fun path _ => by rw [h]⟩
    · intro h
      exact picked_eq_of_perm (hiff.mpr (h.unrecorded_perm hclean)) h.shared_eq
  · constructor
    · intro h
      refine ⟨fun hclean => ?_, fun path _ => by rw [h]⟩
      rw [hdirty] at hclean
      cases hclean
    · intro h
      have hperm := picked_perm_of_digestOf_eq hsearches h₁ h₂ (hcollision hdirty) hdigest
      exact picked_eq_of_perm hperm h.shared_eq

/-! ## The standard tools -/

/-- The directory of a repository is there, and it is the top of the work tree or inside it. -/
lemma repositoryOf?_eq_some {r : GitRepository} (h : repositoryOf? w directory = some r) :
    w.files.isDirectory directory = true ∧ isWithin r.top directory = true := by
  have hfilter := (Option.filter_eq_some_iff.mp h).2
  simp only [Bool.and_eq_true] at hfilter
  exact ⟨hfilter.1.1.2, hfilter.1.2⟩

/-- A path inside a directory of a work tree is a path inside the work tree. -/
lemma opening_prefix {top : Text} (h : isWithin top directory = true) :
    FileSystem.opening top <+: FileSystem.opening directory := by
  rw [isWithin, Bool.or_eq_true, decide_eq_true_eq, List.isPrefixOf_iff_prefix] at h
  rcases h with rfl | hbegins
  · exact List.prefix_rfl
  · apply hbegins.trans
    rw [FileSystem.opening]
    split
    · exact List.prefix_rfl
    · exact List.prefix_append _ _

/-- What is asked of the repository is its answer. -/
lemma ask_of_eq_some {α : Type} {question : GitRepository → FileSystem → Except Text α}
    {r : GitRepository} (h : repositoryOf? w directory = some r) :
    ask question w directory = question r w.files := by
  rw [ask, h]

/-- The id that is checked out is that of the repository. -/
lemma head_standard_eq_ok {id : Text} : standard.head w directory = .ok id
    ↔ ∃ r, repositoryOf? w directory = some r ∧ Git.headId? r w.files = some id := by
  show ask headOf w directory = .ok id ↔ _
  constructor
  · intro h
    cases hr : repositoryOf? w directory with
    | none =>
      rw [ask, hr] at h
      cases h
    | some r =>
      rw [ask_of_eq_some hr, headOf] at h
      cases hid : Git.headId? r w.files with
      | none =>
        rw [hid] at h
        cases h
      | some id' =>
        rw [hid] at h
        exact ⟨r, rfl, hid.trans (congrArg some (Except.ok.inj h))⟩
  · rintro ⟨r, hr, hid⟩
    rw [ask_of_eq_some hr, headOf, hid]

/-- What the commit that is checked out holds for a path of a directory. -/
def recorded (w : Workspace) (directory path : Text) : Option Text :=
  (repositoryOf? w directory).bind fun r => (Git.headFiles r w.files).lookup
    ((FileSystem.opening directory ++ path).drop (FileSystem.opening r.top).length)

/-- What is assumed of the standard tools at two moments: the directory lies in the same work tree,
the ids of commits have forty digits, and the id of a commit tells its files. -/
structure SameHistory (w₁ w₂ : Workspace) (directory : Text) : Prop where
  length_first : ∀ r, repositoryOf? w₁ directory = some r →
    ∀ c ∈ r.commits, c.id.length = Git.idLength
  length_second : ∀ r, repositoryOf? w₂ directory = some r →
    ∀ c ∈ r.commits, c.id.length = Git.idLength
  top : ∀ r₁ r₂, repositoryOf? w₁ directory = some r₁ → repositoryOf? w₂ directory = some r₂ →
    r₂.top = r₁.top
  files : ∀ r₁ r₂, repositoryOf? w₁ directory = some r₁ → repositoryOf? w₂ directory = some r₂ →
    Git.headId? r₂ w₂.files = Git.headId? r₁ w₁.files →
    Git.headFiles r₂ w₂.files = Git.headFiles r₁ w₁.files

/-- The commands of `Git` keep the files of a commit. -/
theorem records_standard (hlength : ∀ r, repositoryOf? w directory = some r →
    ∀ c ∈ r.commits, c.id.length = Git.idLength) : Records standard recorded w directory where
  isDirectory hinside := by
    obtain ⟨r, hr⟩ := Option.isSome_iff_exists.mp hinside
    exact (repositoryOf?_eq_some hr).1
  length id hid := by
    obtain ⟨r, hr, hhead⟩ := head_standard_eq_ok.mp hid
    exact Git.length_of_headId?_eq_some (hlength r hr) hhead
  inPlace hinside hclean path content hcontent := by
    obtain ⟨r, hr⟩ := Option.isSome_iff_exists.mp hinside
    replace hclean : Git.isDirty r w.files = .ok false := (ask_of_eq_some hr).symm.trans hclean
    rw [recorded, hr] at hcontent
    have hplace := FileSystem.mem_filesIn.mp (Git.mem_filesIn_of_isDirty_eq_false hclean hcontent)
    obtain ⟨rest, hrest⟩ := opening_prefix (repositoryOf?_eq_some hr).2
    rw [← hrest, List.append_assoc, List.drop_left, ← List.append_assoc, hrest] at hplace
    exact FileSystem.mem_filesIn.mpr hplace

/-- What is assumed of the standard tools is what is assumed of tools. -/
theorem SameHistory.keeps (h : SameHistory w₁ w₂ directory) :
    Keeps standard recorded w₁ w₂ directory where
  first := records_standard h.length_first
  second := records_standard h.length_second
  held_eq id h₁ h₂ := by
    obtain ⟨r₁, hr₁, hhead₁⟩ := head_standard_eq_ok.mp h₁
    obtain ⟨r₂, hr₂, hhead₂⟩ := head_standard_eq_ok.mp h₂
    funext path
    rw [recorded, recorded, hr₁, hr₂, Option.bind_some, Option.bind_some, h.top r₁ r₂ hr₁ hr₂,
      h.files r₁ r₂ hr₁ hr₂ (hhead₂.trans hhead₁.symm)]

end Checkout

end CallAtlas
