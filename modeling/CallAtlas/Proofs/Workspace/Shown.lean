import CallAtlas.Proofs.Workspace.Records

/-!
# When a work tree shows a new file

A file that is neither tracked nor ignored makes a work tree dirty. Any other file that is added
apart from version control leaves the state of its work tree as it is, and so does any such file in
a dirty work tree.
-/

namespace CallAtlas

open FileSystem

/-- A lookup finds the same where a test keeps all elements under the key. -/
lemma lookup_filter_of_pos {β : Type} {l : List (Text × β)} (keep : Text × β → Bool) {k : Text}
    (h : ∀ b, keep (k, b) = true) : (l.filter keep).lookup k = l.lookup k := by
  induction l with
  | nil => rfl
  | cons n l ih =>
    obtain ⟨key, b⟩ := n
    by_cases hkey : k = key
    · subst hkey
      rw [List.filter_cons_of_pos (h b), List.lookup_cons_self, List.lookup_cons_self]
    · have hne : (k == key) = false := beq_eq_false_iff_ne.mpr hkey
      rw [List.filter_cons]
      split
      · rw [List.lookup_cons, List.lookup_cons, hne, ih]
      · rw [List.lookup_cons, hne, ih]

namespace Git

/-- Does the state of a work tree show a new file at a path? It does if the path lies in the work
tree and is not ignored, unless the settings tell to pass over new files. -/
def shows (r : GitRepository) (fs : FileSystem) (path : Text) : Bool :=
  (GitConfig.showsUntracked ((settings? r fs).getD [])).toOption.getD false
    && (FileSystem.opening r.top).isPrefixOf path
    && !Ignore.isIgnored (rules r fs) (path.drop (FileSystem.opening r.top).length)

/-- What is assumed of a path that version control does not deal with: nothing is tracked there, and
no rules that tell which files are ignored are kept there. -/
structure IsApart (r : GitRepository) (fs : FileSystem) (path : Text) : Prop where
  untracked : ∀ index, tracked r fs = .ok index →
    ∀ rest, FileSystem.opening r.top ++ rest = path → index.lookup rest = none
  noRules : ∀ rest, FileSystem.opening r.top ++ rest = path →
    Path.baseName rest ≠ Ignore.fileName
  noFurtherRules : ∀ file, (settings? r fs).bind GitConfig.ignoreFile? = some file →
    Path.resolve r.top file ≠ path

/-- Is a file of a work tree in another place than a path? -/
def isElsewhere (top path : Text) (f : Text × Text) : Bool := FileSystem.opening top ++ f.1 ≠ path

variable {r : GitRepository} {fs fs' : FileSystem} {path content : Text}

/-- The files of a work tree are the same but for the one that was added. -/
lemma filter_workFiles (h : Adds path content fs fs') {keep : Text × Text → Bool}
    (hkeep : ∀ f, FileSystem.opening r.top ++ f.1 = path → keep f = false) :
    (workFiles r fs').filter keep = (workFiles r fs).filter keep := by
  rw [workFiles, workFiles, List.filter_filter, List.filter_filter]
  apply h.filter_filesIn
  intro f hf
  rw [hkeep f hf, Bool.false_and]

lemma filter_isElsewhere (h : Adds path content fs fs') :
    (workFiles r fs').filter (isElsewhere r.top path)
      = (workFiles r fs).filter (isElsewhere r.top path) :=
  filter_workFiles h fun _ hf => decide_eq_false (not_not_intro hf)

lemma lookup_workFiles (h : Adds path content fs fs') {rest : Text}
    (hrest : FileSystem.opening r.top ++ rest ≠ path) :
    (workFiles r fs').lookup rest = (workFiles r fs).lookup rest := by
  have hkeep : ∀ content, isElsewhere r.top path (rest, content) = true := fun _ =>
    decide_eq_true hrest
  rw [← lookup_filter_of_pos _ hkeep, filter_isElsewhere h, lookup_filter_of_pos _ hkeep]

lemma mem_workFiles_iff (h : Adds path content fs fs') {f : Text × Text}
    (hf : FileSystem.opening r.top ++ f.1 ≠ path) :
    f ∈ workFiles r fs' ↔ f ∈ workFiles r fs := by
  have hmem : ∀ l : List (Text × Text), f ∈ l ↔ f ∈ l.filter (isElsewhere r.top path) := fun l =>
    ⟨fun hl => List.mem_filter.mpr ⟨hl, decide_eq_true hf⟩, fun hl => (List.mem_filter.mp hl).1⟩
  rw [hmem, filter_isElsewhere h, ← hmem]

/-- The file that was added is one of the work tree if its path lies in it. -/
lemma mem_workFiles_of_adds (h : Adds path content fs fs') (hinternal : isInternal path = false)
    {rest : Text} (hpath : FileSystem.opening r.top ++ rest = path) :
    (rest, content) ∈ workFiles r fs' := by
  rw [workFiles, List.mem_filter, mem_filesIn, hpath]
  constructor
  · have hnode := h.node
    rw [FileSystem.node?] at hnode
    split at hnode
    · cases hnode
    · exact mem_of_lookup_eq_some hnode
  · obtain ⟨body, hbody⟩ := exists_opening_eq r.top
    rw [← hpath, hbody, List.append_assoc, List.singleton_append, isInternal_append_cons,
      Bool.or_eq_false_iff] at hinternal
    rw [hinternal.2]
    rfl

/-- The rules that tell which files are ignored are the same. -/
lemma rules_eq (h : Adds path content fs fs') (hrecords : SameRecords fs fs')
    (hapart : IsApart r fs path) : rules r fs' = rules r fs := by
  have hown : Ignore.rulesOf (workFiles r fs') = Ignore.rulesOf (workFiles r fs) := by
    unfold Ignore.rulesOf
    rw [filter_workFiles h fun f hf => decide_eq_false (hapart.noRules f.1 hf)]
  have hfurther : ∀ file, (settings? r fs).bind GitConfig.ignoreFile? = some file →
      fs'.node? (Path.resolve r.top file) = fs.node? (Path.resolve r.top file)
        ∨ fs.node? (Path.resolve r.top file) = none
          ∧ fs'.node? (Path.resolve r.top file) = some .directory := fun file hfile =>
    (h.elsewhere _ (hapart.noFurtherRules file hfile)).imp_right fun ⟨_, hmade⟩ => hmade
  unfold rules
  rw [hown, hrecords.settings?_eq, hrecords.content?_eq]
  cases hfile : (settings? r fs).bind GitConfig.ignoreFile? with
  | none => rfl
  | some file =>
    rcases hfurther file hfile with heq | ⟨hmissing, hmade⟩
    · simp only [Option.bind_some, heq]
    · simp only [Option.bind_some, hmissing, hmade]

/-- There is a file with some property exactly if there was one before or if it is the one that was
added. -/
lemma any_workFiles (h : Adds path content fs fs') (hinternal : isInternal path = false)
    (p : Text → Bool) :
    ((workFiles r fs').any fun f => p f.1)
      = (((workFiles r fs).any fun f => p f.1)
          || ((FileSystem.opening r.top).isPrefixOf path
            && p (path.drop (FileSystem.opening r.top).length))) := by
  have hrest : ∀ rest, FileSystem.opening r.top ++ rest = path →
      (FileSystem.opening r.top).isPrefixOf path = true
        ∧ path.drop (FileSystem.opening r.top).length = rest := by
    rintro rest rfl
    exact ⟨List.isPrefixOf_iff_prefix.mpr (List.prefix_append _ _), List.drop_left⟩
  rw [Bool.eq_iff_iff, Bool.or_eq_true, Bool.and_eq_true, List.any_eq_true, List.any_eq_true]
  constructor
  · rintro ⟨f, hf, hp⟩
    by_cases hplace : FileSystem.opening r.top ++ f.1 = path
    · obtain ⟨hbegins, hdrop⟩ := hrest f.1 hplace
      exact .inr ⟨hbegins, hdrop.symm ▸ hp⟩
    · exact .inl ⟨f, (mem_workFiles_iff h hplace).mp hf, hp⟩
  · rintro (⟨f, hf, hp⟩ | ⟨hbegins, hp⟩)
    · by_cases hplace : FileSystem.opening r.top ++ f.1 = path
      · exact ⟨_, mem_workFiles_of_adds h hinternal hplace, hp⟩
      · exact ⟨f, (mem_workFiles_iff h hplace).mpr hf, hp⟩
    · obtain ⟨rest, hpath⟩ := List.isPrefixOf_iff_prefix.mp hbegins
      rw [(hrest rest hpath).2] at hp
      exact ⟨_, mem_workFiles_of_adds h hinternal hpath, hp⟩

section

variable {index : List (Text × Text)}

/-- What is tracked is not the file that was added, so it is found as before. -/
lemma any_tracked_eq (h : Adds path content fs fs') (hapart : IsApart r fs path)
    (hindex : tracked r fs = .ok index) :
    (index.any fun f => (workFiles r fs').lookup f.1 != some f.2)
      = index.any fun f => (workFiles r fs).lookup f.1 != some f.2 := by
  rw [Bool.eq_iff_iff, List.any_eq_true, List.any_eq_true]
  refine exists_congr fun f => and_congr_right fun hf => ?_
  have hplace : FileSystem.opening r.top ++ f.1 ≠ path := by
    intro hpath
    have hsome : (index.lookup f.1).isSome = true :=
      List.lookup_isSome_iff.mpr ⟨f, hf, beq_self_eq_true f.1⟩
    rw [hapart.untracked index hindex f.1 hpath] at hsome
    cases hsome
  rw [lookup_workFiles h hplace]

/-- The file that was added is not tracked. -/
lemma IsApart.isNone_lookup (hapart : IsApart r fs path) (hindex : tracked r fs = .ok index)
    (hbegins : (FileSystem.opening r.top).isPrefixOf path = true) :
    (index.lookup (path.drop (FileSystem.opening r.top).length)).isNone = true := by
  obtain ⟨rest, hpath⟩ := List.isPrefixOf_iff_prefix.mp hbegins
  rw [← hpath, List.drop_left, hapart.untracked index hindex rest hpath]
  rfl

end

/-- A file that is added apart from version control makes a work tree dirty exactly if it is
shown. -/
theorem isDirty_of_adds (h : Adds path content fs fs') (hinternal : isInternal path = false)
    (hapart : IsApart r fs path) :
    isDirty r fs' = (isDirty r fs).map (· || shows r fs path) := by
  have hrecords := sameRecords_of_adds h hinternal
  have hrules := rules_eq h hrecords hapart
  unfold isDirty shows
  rw [hrecords.settings?_eq, hrecords.tracked_eq, hrecords.head?_eq, hrules]
  cases GitConfig.showsUntracked ((settings? r fs).getD []) with
  | error said => rfl
  | ok shown =>
    cases hindex : tracked r fs with
    | error said => rfl
    | ok index =>
      have hnew := any_workFiles (r := r) h hinternal fun rest =>
        (index.lookup rest).isNone && !Ignore.isIgnored (rules r fs) rest
      have hvalue : ((.ok shown : Except Text Bool).toOption.getD false) = shown := rfl
      refine congrArg Except.ok ?_
      rw [any_tracked_eq h hapart hindex, hnew, hvalue]
      cases hbegins : (FileSystem.opening r.top).isPrefixOf path with
      | false => simp
      | true =>
        rw [hapart.isNone_lookup hindex hbegins]
        cases shown <;> simp [Bool.or_assoc]

end Git

namespace Checkout

variable {w : Workspace} {files : FileSystem} {directory ref path content : Text}

/-- The directory lies in the same work tree. -/
lemma repositoryOf?_of_adds (h : FileSystem.Adds path content w.files files)
    (hinternal : Git.isInternal path = false)
    (hdirectory : w.files.isDirectory directory = true) :
    repositoryOf? { w with files } directory = repositoryOf? w directory := by
  have hrecords := Git.sameRecords_of_adds h hinternal
  have hkept : files.isDirectory directory = w.files.isDirectory directory := by
    rw [hdirectory, isDirectory, beq_iff_eq]
    exact h.isDirectory (beq_iff_eq.mp hdirectory)
  unfold repositoryOf?
  simp only [hrecords.isValid_eq, hkept, hrecords.node? _ (Git.isInternal_home _)]

/-- Does the state of the work tree that a directory lies in show a new file at a path? -/
def showsIn (w : Workspace) (directory path : Text) : Bool :=
  (repositoryOf? w directory).any fun r => Git.shows r w.files path

/-- What is assumed of version control where a file is added: the directory lies in the same work
tree at the same commit, and the file makes the work tree dirty exactly if it is shown. -/
structure Notices (tools : Tools) (directory ref : Text) (shown : Bool) (w w' : Workspace) :
    Prop where
  isInside_eq : tools.isInside w' directory = tools.isInside w directory
  commit?_eq : tools.commit? w' directory ref = tools.commit? w directory ref
  head_eq : tools.head w' directory = tools.head w directory
  isDirty_eq : tools.isDirty w' directory = (tools.isDirty w directory).map (· || shown)

/-- The directory is in the state as before, but for a work tree that is now dirty if it shows the
file. -/
theorem Notices.resolveRef_eq {tools : Tools} {shown : Bool} {w w' : Workspace}
    (h : Notices tools directory ref shown w w') :
    tools.resolveRef w' directory ref
      = (tools.resolveRef w directory ref).map (Option.map fun state =>
          { state with dirty := state.dirty || shown }) := by
  unfold Tools.resolveRef Tools.gitState
  rw [h.isInside_eq, h.commit?_eq, h.head_eq, h.isDirty_eq]
  cases tools.isInside w directory with
  | false =>
    simp only [Bool.false_eq_true, if_false]
    split <;> rfl
  | true =>
    simp only [if_true]
    cases tools.commit? w directory ref with
    | none => rfl
    | some commit =>
      cases tools.head w directory with
      | error said => rfl
      | ok head =>
        simp only
        -- The work tree counts only where the commit that is asked for is checked out.
        by_cases hat : head = commit
        · rw [if_pos hat, if_pos hat]
          cases tools.isDirty w directory <;> rfl
        · rw [if_neg hat, if_neg hat]
          rfl

/-- A file that is added apart from version control is noticed by the commands of `Git` if the work
tree shows it. -/
theorem notices_of_adds (h : FileSystem.Adds path content w.files files)
    (hinternal : Git.isInternal path = false)
    (hdirectory : w.files.isDirectory directory = true)
    (hapart : ∀ r, repositoryOf? w directory = some r → Git.IsApart r w.files path) :
    Notices standard directory ref (showsIn w directory path) w { w with files } := by
  have hrecords := Git.sameRecords_of_adds h hinternal
  have hrepository := repositoryOf?_of_adds h hinternal hdirectory
  constructor
  · exact congrArg Option.isSome hrepository
  · show (repositoryOf? { w with files } directory).bind (fun r => Git.commitName? r files ref)
      = (repositoryOf? w directory).bind fun r => Git.commitName? r w.files ref
    have hnames : ∀ r, Git.commitName? r files ref = Git.commitName? r w.files ref := fun r => by
      rw [Git.commitName?, Git.commitName?, hrecords.resolve?_eq]
    simp only [hrepository, hnames]
  · show ask headOf { w with files } directory = ask headOf w directory
    rw [ask, ask, hrepository]
    cases repositoryOf? w directory with
    | none => rfl
    | some r => simp only [headOf, hrecords.headId?_eq]
  · show ask Git.isDirty { w with files } directory
      = (ask Git.isDirty w directory).map (· || showsIn w directory path)
    rw [ask, ask, showsIn, hrepository]
    cases hr : repositoryOf? w directory with
    | none => rfl
    | some r => exact Git.isDirty_of_adds h hinternal (hapart r hr)

end Checkout

end CallAtlas
