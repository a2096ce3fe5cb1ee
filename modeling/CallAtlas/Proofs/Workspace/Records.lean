import CallAtlas.Proofs.Workspace.Added
import CallAtlas.Workspace.Checkout

/-!
# What version control reads of its own

All that a repository holds of its own lies in its directory. As long as the files there stay as
they are, commits are found by the same names, and the same files are tracked.
-/

namespace CallAtlas

namespace Git

open FileSystem

/-! ## Paths into a repository -/

lemma isInternal_append_cons (a b : Text) :
    isInternal (a ++ Text.slash :: b) = (isInternal a || isInternal b) := by
  rw [isInternal, Text.splitAt_append_cons, List.contains_append]
  rfl

/-- The path of a directory with a slash after it ends with one slash at least. -/
lemma exists_opening_eq (directory : Text) :
    ∃ body, FileSystem.opening directory = body ++ [Text.slash] := by
  rw [FileSystem.opening]
  split
  · next hslash =>
    rw [Path.hasTrailingSlash, beq_iff_eq] at hslash
    exact List.getLast?_eq_some_iff.mp hslash
  · exact ⟨directory, rfl⟩

lemma isInternal_home (top : Text) :
    isInternal (FileSystem.opening top ++ repositoryDirectory) = true := by
  obtain ⟨body, hbody⟩ := exists_opening_eq top
  have hown : isInternal repositoryDirectory = true := by decide
  rw [hbody, List.append_assoc, List.singleton_append, isInternal_append_cons, hown,
    Bool.or_true]

/-- Whatever lies behind the path of a repository's own directory is a path into it. -/
lemma isInternal_opening_home (top rest : Text) : isInternal
    (FileSystem.opening (FileSystem.opening top ++ repositoryDirectory) ++ rest) = true := by
  have hopening : FileSystem.opening (FileSystem.opening top ++ repositoryDirectory)
      = FileSystem.opening top ++ repositoryDirectory ++ [Text.slash] := by
    rw [FileSystem.opening]
    split
    · next hslash =>
      rw [Path.hasTrailingSlash, List.getLast?_append_of_ne_nil _ (by decide)] at hslash
      exact absurd hslash (by decide)
    · rfl
  rw [hopening, List.append_assoc, List.singleton_append, isInternal_append_cons,
    isInternal_home, Bool.true_or]

lemma isInternal_pathIn (top name : Text) : isInternal (pathIn top name) = true :=
  isInternal_opening_home top name

/-- Only paths into a repository lead through one. -/
lemma isInternal_of_mem_above {path d : Text} (hd : d ∈ above path)
    (h : isInternal d = true) : isInternal path = true := by
  unfold above at hd
  obtain ⟨i, -, rfl⟩ := List.mem_map.mp hd
  have hsegments : ∀ s ∈ ((Text.splitAt Text.slash path).filter fun s => s ≠ []).take (i + 1),
      Path.IsSegment s := by
    intro s hs
    obtain ⟨hmem, hne⟩ := List.mem_filter.mp (List.mem_of_mem_take hs)
    exact ⟨of_decide_eq_true hne, Text.notMem_of_mem_splitAt hmem⟩
  rw [isInternal, List.contains_iff_mem] at h ⊢
  have hmem : repositoryDirectory ∈ (Text.splitAt Text.slash (Path.ofSegments
      (((Text.splitAt Text.slash path).filter fun s => s ≠ []).take (i + 1)))).filter
        fun s => s ≠ [] :=
    List.mem_filter.mpr ⟨h, by decide⟩
  rw [Path.filter_splitAt_ofSegments hsegments] at hmem
  exact (List.mem_filter.mp (List.mem_of_mem_take hmem)).1

/-! ## What is read of a repository -/

/-- Two states of the files with the same in all repositories' own directories. -/
structure SameRecords (fs fs' : FileSystem) : Prop where
  node? : ∀ p, isInternal p = true → fs'.node? p = fs.node? p
  filesIn : ∀ top, fs'.filesIn (FileSystem.opening top ++ repositoryDirectory)
    = fs.filesIn (FileSystem.opening top ++ repositoryDirectory)

/-- A file that is added outside of all repositories' own directories changes nothing in them. -/
lemma sameRecords_of_adds {fs fs' : FileSystem} {path content : Text}
    (h : Adds path content fs fs') (hpath : isInternal path = false) : SameRecords fs fs' := by
  constructor
  · intro p hp
    rcases h.elsewhere p (fun heq => by rw [heq, hpath] at hp; cases hp) with heq | ⟨habove, -⟩
    · exact heq
    · rw [isInternal_of_mem_above habove hp] at hpath
      cases hpath
  · intro top
    have hfilter := h.filter_filesIn (FileSystem.opening top ++ repositoryDirectory)
      (fun _ => true) fun f hf => by
        rw [← hf, isInternal_opening_home] at hpath
        cases hpath
    rwa [List.filter_eq_self.mpr fun _ _ => rfl, List.filter_eq_self.mpr fun _ _ => rfl] at hfilter

namespace SameRecords

variable {fs fs' : FileSystem}

lemma content?_eq (h : SameRecords fs fs') : content? fs' = content? fs := by
  funext top name
  rw [content?, content?, h.node? _ (isInternal_pathIn top name)]

lemma isDirectory_pathIn (h : SameRecords fs fs') (top name : Text) :
    fs'.isDirectory (pathIn top name) = fs.isDirectory (pathIn top name) := by
  rw [isDirectory, isDirectory, h.node? _ (isInternal_pathIn top name)]

variable (r : GitRepository)

lemma settings?_eq (h : SameRecords fs fs') : settings? r fs' = settings? r fs := by
  rw [settings?, settings?, h.node? _ (isInternal_pathIn _ _)]

lemma tracked_eq (h : SameRecords fs fs') : tracked r fs' = tracked r fs := by
  rw [tracked, tracked, h.node? _ (isInternal_pathIn _ _)]

lemma isValid_eq (h : SameRecords fs fs') : isValid r fs' = isValid r fs := by
  have hwhole : isWhole r fs' = isWhole r fs := by
    rw [isWhole, isWhole, h.node? _ (isInternal_pathIn _ _)]
  rw [isValid, isValid, h.settings?_eq, hwhole, h.isDirectory_pathIn, h.isDirectory_pathIn,
    h.content?_eq]

lemma packed?_eq (h : SameRecords fs fs') : packed? r fs' = packed? r fs := by
  rw [packed?, packed?, h.node? _ (isInternal_pathIn _ _)]

/-- Names lead to the same ids. -/
lemma follow?_eq (h : SameRecords fs fs') : follow? r fs' = follow? r fs := by
  have hwritten : written? r fs' = written? r fs := by
    funext name
    rw [written?, written?, h.content?_eq, h.packed?_eq]
  funext n
  induction n with
  | zero => rfl
  | succ n ih =>
    funext name
    rw [follow?, follow?, hwritten, ih]

lemma headId?_eq (h : SameRecords fs fs') : headId? r fs' = headId? r fs := by
  rw [headId?, headId?, h.follow?_eq]

lemma head?_eq (h : SameRecords fs fs') : head? r fs' = head? r fs := by
  rw [head?, head?, h.headId?_eq]

lemma log?_eq (h : SameRecords fs fs') : log? r fs' = log? r fs := by
  funext name
  rw [log?, log?, h.content?_eq]

lemma tips_eq (h : SameRecords fs fs') : tips r fs' = tips r fs := by
  rw [tips, tips, h.filesIn, h.follow?_eq, h.head?_eq]

/-- Revisions stand for the same commits. -/
lemma revision?_eq (h : SameRecords fs fs') : revision? r fs' = revision? r fs := by
  have hnamed : named r fs' = named r fs := by
    funext t
    unfold named find? loggedName?
    rw [h.follow?_eq, h.log?_eq]
  have hobject : object r fs' = object r fs := by
    funext n
    induction n with
    | zero => rfl
    | succ n ih =>
      funext t
      rw [object, object, ih, hnamed]
  funext t
  unfold revision?
  rw [hobject, h.tips_eq]

lemma resolve?_eq (h : SameRecords fs fs') : resolve? r fs' = resolve? r fs := by
  have hreadable : isReadable r fs' = isReadable r fs := by
    rw [isReadable, isReadable, h.content?_eq]
  have hrange : isRange r fs' = isRange r fs := by
    funext t
    rw [isRange, isRange, h.revision?_eq]
  funext ref
  rw [resolve?, resolve?, h.packed?_eq, hreadable, hrange, h.revision?_eq]

end SameRecords

end Git

end CallAtlas
