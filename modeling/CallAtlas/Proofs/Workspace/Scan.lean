import CallAtlas.Proofs.Text.Order
import CallAtlas.Proofs.Path.Canonical
import CallAtlas.Proofs.Session.Reading
import CallAtlas.Workspace.Checkout
import Mathlib.Data.List.Nodup

/-!
# What a scan picks up

A scan is a function of the options, the extensions of the registry and the workspace. Of the search
for files it is assumed that it finds the files whose paths are selected; nothing is assumed of the
order in which it meets them. So what a scan gives is determined by the selected files, but for the
order of those that share a path.
-/

namespace CallAtlas

/-! ## File systems -/

/-- What holds of every file system: a path leads to one node, its way is open, and it holds no unit
that is zero. -/
structure FileSystem.Sound (fs : FileSystem) : Prop where
  nodup : (fs.nodes.map Prod.fst).Nodup
  blocked?_eq : ∀ n ∈ fs.nodes, fs.blocked? n.1 = none
  zero_notMem : ∀ n ∈ fs.nodes, (0 : CodeUnit) ∉ n.1

namespace FileSystem

instance (fs : FileSystem) : Decidable fs.Sound :=
  decidable_of_iff ((fs.nodes.map Prod.fst).Nodup ∧ (∀ n ∈ fs.nodes, fs.blocked? n.1 = none)
      ∧ ∀ n ∈ fs.nodes, (0 : CodeUnit) ∉ n.1)
    ⟨fun ⟨hnodup, hopen, hzero⟩ => ⟨hnodup, hopen, hzero⟩,
      fun h => ⟨h.nodup, h.blocked?_eq, h.zero_notMem⟩⟩

variable {fs : FileSystem} {directory : Text}

/-- A file of a directory is a node behind the path of the directory. -/
lemma mem_filesIn {f : Text × Text} :
    f ∈ fs.filesIn directory ↔ (opening directory ++ f.1, .file f.2) ∈ fs.nodes := by
  rw [filesIn, List.mem_filterMap]
  constructor
  · rintro ⟨⟨path, node⟩, hn, hf⟩
    cases node with
    | directory => cases hf
    | file content =>
      simp only [Option.ite_none_right_eq_some, Option.some.injEq] at hf
      obtain ⟨hbegins, rfl⟩ := hf
      obtain ⟨rest, rfl⟩ := List.isPrefixOf_iff_prefix.mp hbegins
      rw [List.drop_left]
      exact hn
  · intro hn
    refine ⟨_, hn, ?_⟩
    simp only
    rw [if_pos (List.isPrefixOf_iff_prefix.mpr (List.prefix_append _ _)), List.drop_left]

/-- No path of a directory leads to two files. -/
lemma nodup_filesIn (h : fs.Sound) : ((fs.filesIn directory).map Prod.fst).Nodup := by
  -- Behind the path of the directory, the paths of its files are those of nodes, in the same order.
  have hsub : ∀ nodes : List (Text × FileNode),
      (((FileSystem.mk nodes).filesIn directory).map fun f => opening directory ++ f.1).Sublist
        (nodes.map Prod.fst) := by
    intro nodes
    induction nodes with
    | nil => exact .refl _
    | cons n rest ih =>
      obtain ⟨path, node⟩ := n
      simp only [filesIn] at ih ⊢
      rw [List.filterMap_cons, List.map_cons]
      cases node with
      | directory => exact ih.cons path
      | file content =>
        simp only
        split
        · rename_i hnone
          exact ih.cons path
        · rename_i f hf
          simp only [Option.ite_none_right_eq_some, Option.some.injEq] at hf
          obtain ⟨hbegins, rfl⟩ := hf
          obtain ⟨tail, rfl⟩ := List.isPrefixOf_iff_prefix.mp hbegins
          rw [List.map_cons, List.drop_left]
          exact ih.cons_cons _
  have hnodup := (hsub fs.nodes).nodup h.nodup
  have hmap : (fs.filesIn directory).map (fun f => opening directory ++ f.1)
      = ((fs.filesIn directory).map Prod.fst).map (opening directory ++ ·) := by
    rw [List.map_map]
    rfl
  rw [hmap] at hnodup
  exact List.Nodup.of_map _ hnodup

/-- Nothing stands in the way to a directory that is there. -/
lemma blocked?_eq_none_of_isDirectory (h : fs.Sound) (hdirectory : fs.isDirectory directory) :
    fs.blocked? directory = none := by
  rw [isDirectory, beq_iff_eq, node?] at hdirectory
  split at hdirectory
  · rename_i hroot
    rw [hroot]
    rfl
  · exact h.blocked?_eq _ (mem_of_lookup_eq_some hdirectory)

end FileSystem

namespace Checkout

/-! ## What is picked up -/

/-- The source file that a file is read as. -/
def source (f : Text × Text) : SourceFile := { path := Path.normalize f.1, content := f.2 }

namespace Tools

/-- The files of a directory that are found and not too large, in the order in which they are
met. -/
def accepted (tools : Tools) (options : CheckoutOptions) (registered : List Text) (w : Workspace)
    (directory : Text) : List (Text × Text) :=
  match tools.find w directory (patternsOf (options.extensions.getD registered)) options.ignore with
  | .error _ => []
  | .ok found => found.filter fun f => !isOversized options.maxFileBytes f

/-- The source files that are picked up, by path. -/
def picked (tools : Tools) (options : CheckoutOptions) (registered : List Text) (w : Workspace)
    (directory : Text) : List SourceFile :=
  ((tools.accepted options registered w directory).map source).mergeSort
    fun a b => !Text.before b.path a.path

/-- What a scan of a directory gives. -/
def scanned (tools : Tools) (options : CheckoutOptions) (registered : List Text) (w : Workspace)
    (directory : Text) : Outcome (List SourceFile) :=
  match tools.find w directory (patternsOf (options.extensions.getD registered)) options.ignore with
  | .error message => .error (scanFailure directory message)
  | .ok found =>
    if options.readConcurrency < 1 then
      .error (.ofKind .general (Text.ofString "maxConcurrency must be at least 1"))
    else .ok (sourceFiles options found)

end Tools

variable {tools : Tools} {options : CheckoutOptions} {registered : List Text}
  {w w₁ w₂ : Workspace} {directory : Text}

lemma picked_perm :
    (tools.picked options registered w directory).Perm
      ((tools.accepted options registered w directory).map source) :=
  List.mergeSort_perm _ _

lemma pairwise_picked :
    (tools.picked options registered w directory).Pairwise fun a b => a.path ≤ b.path :=
  Text.pairwise_mergeSort_key SourceFile.path _

/-- Source files are the same list if they are the same files and those that share a path come in
the same order. -/
theorem picked_eq_of_perm
    (hperm : (tools.picked options registered w₂ directory).Perm
      (tools.picked options registered w₁ directory))
    (hshared : ∀ path,
      1 < ((tools.picked options registered w₂ directory).filter fun f => f.path = path).length →
      ((tools.picked options registered w₂ directory).filter fun f => f.path = path)
        = (tools.picked options registered w₁ directory).filter fun f => f.path = path) :
    tools.picked options registered w₂ directory
      = tools.picked options registered w₁ directory := by
  apply Text.eq_of_pairwise_key SourceFile.path pairwise_picked pairwise_picked
  intro path
  by_cases hcount :
      1 < ((tools.picked options registered w₂ directory).filter fun f => f.path = path).length
  · exact hshared path hcount
  · -- A single file leaves no choice of an order.
    have hfilter := hperm.filter fun f => f.path = path
    match hof : (tools.picked options registered w₂ directory).filter fun f => f.path = path with
    | [] =>
      rw [hof] at hfilter ⊢
      exact hfilter.symm.eq_nil.symm
    | [f] =>
      rw [hof] at hfilter ⊢
      exact hfilter.symm.eq_singleton.symm
    | f :: g :: rest =>
      rw [hof, List.length_cons, List.length_cons] at hcount
      omega

/-! ## Scanning as a function -/

/-- A scan changes nothing but the log, and it depends on the workspace and the extensions alone. -/
theorem scan_reads (tools : Tools) (options : CheckoutOptions) (directory : Text) :
    Job.Reads (tools.scan options directory) fun _ w r =>
      tools.scanned options r.extensions w directory := by
  refine Job.Reads.world.bind fun w => Job.Reads.registry.bind
    (g := fun r _ _ _ => tools.scanned options r.extensions w directory) fun r => ?_
  unfold Tools.scanned
  simp only
  cases tools.find w directory (patternsOf (options.extensions.getD r.extensions))
      options.ignore with
  | error message => exact .throw _
  | ok found =>
    refine .behind (.report _) ?_
    simp only
    by_cases hreads : options.readConcurrency < 1
    · rw [if_pos hreads, if_pos hreads]
      exact .throw _
    · rw [if_neg hreads, if_neg hreads]
      exact .give _

/-- What a scan gives are the files that are picked up, by path. -/
theorem eq_of_scanned_eq_ok {files : List SourceFile}
    (h : tools.scanned options registered w directory = .ok files) :
    files = tools.picked options registered w directory := by
  unfold Tools.scanned at h
  unfold Tools.picked Tools.accepted
  split at h
  · cases h
  · split at h
    · cases h
    · exact (Except.ok.inj h).symm

/-- A scan that works has found files. -/
lemma exists_find_of_scanned {files : List SourceFile}
    (h : tools.scanned options registered w directory = .ok files) :
    ∃ found, tools.find w directory (patternsOf (options.extensions.getD registered))
      options.ignore = .ok found := by
  unfold Tools.scanned at h
  split at h
  · cases h
  · exact ⟨_, ‹_›⟩

/-! ## Searches -/

/-- What is assumed of the search for files, with a test that tells which paths are selected: it
finds the selected files of a directory, each of them once, and in a directory that can be reached
it depends on the patterns alone whether it succeeds. -/
structure Searches (tools : Tools)
    (selects : (patterns ignore : List Text) → (directory path : Text) → Bool) : Prop where
  perm : ∀ {w : Workspace} {directory : Text} {patterns ignore : List Text}
    {found : List (Text × Text)}, tools.find w directory patterns ignore = .ok found →
    found.Perm ((w.files.filesIn directory).filter fun f => selects patterns ignore directory f.1)
  again : ∀ {w w' : Workspace} {directory : Text} {patterns ignore : List Text}
    {found : List (Text × Text)}, tools.find w directory patterns ignore = .ok found →
    w'.files.blocked? directory = none → w'.files.isDirectory directory = true →
    ∃ found', tools.find w' directory patterns ignore = .ok found'

variable {selects : (patterns ignore : List Text) → (directory path : Text) → Bool}

/-- Where a search succeeds, the files that are not too large are those that are selected. -/
lemma Searches.accepted_perm (h : Searches tools selects) {found : List (Text × Text)}
    (hfind : tools.find w directory (patternsOf (options.extensions.getD registered)) options.ignore
      = .ok found) :
    (tools.accepted options registered w directory).Perm
      ((w.files.filesIn directory).filter fun f => !isOversized options.maxFileBytes f
        && selects (patternsOf (options.extensions.getD registered)) options.ignore directory
          f.1) := by
  unfold Tools.accepted
  rw [hfind, ← List.filter_filter]
  exact (h.perm hfind).filter _

/-- A file that is picked up is one of the directory. -/
lemma Searches.mem_filesIn (h : Searches tools selects) {f : Text × Text}
    (hf : f ∈ tools.accepted options registered w directory) : f ∈ w.files.filesIn directory := by
  cases hfind : tools.find w directory (patternsOf (options.extensions.getD registered))
      options.ignore with
  | error message =>
    rw [Tools.accepted, hfind] at hf
    cases hf
  | ok found => exact (List.mem_filter.mp ((h.accepted_perm hfind).mem_iff.mp hf)).1

/-- What is picked up is a file of the directory. -/
lemma Searches.exists_mem_filesIn (h : Searches tools selects) {f : SourceFile}
    (hf : f ∈ tools.picked options registered w directory) :
    ∃ g ∈ w.files.filesIn directory, source g = f := by
  obtain ⟨g, hg, rfl⟩ := List.mem_map.mp (picked_perm.mem_iff.mp hf)
  exact ⟨g, h.mem_filesIn hg, rfl⟩

/-- No path is picked up twice. -/
lemma Searches.nodup_accepted (h : Searches tools selects) (hsound : w.files.Sound) :
    ((tools.accepted options registered w directory).map Prod.fst).Nodup := by
  cases hfind : tools.find w directory (patternsOf (options.extensions.getD registered))
      options.ignore with
  | error message =>
    rw [Tools.accepted, hfind]
    exact .nil
  | ok found =>
    rw [((h.accepted_perm hfind).map Prod.fst).nodup_iff]
    exact (FileSystem.nodup_filesIn hsound).sublist (List.filter_sublist.map Prod.fst)

/-- A file that is picked up is picked up at any moment at which it is in the directory. -/
lemma Searches.mem_accepted (h : Searches tools selects) {f : Text × Text}
    (hf : f ∈ tools.accepted options registered w₁ directory) (hsound : w₂.files.Sound)
    (hdirectory : w₂.files.isDirectory directory = true)
    (hfile : f ∈ w₂.files.filesIn directory) :
    f ∈ tools.accepted options registered w₂ directory := by
  cases hfind : tools.find w₁ directory (patternsOf (options.extensions.getD registered))
      options.ignore with
  | error message =>
    rw [Tools.accepted, hfind] at hf
    cases hf
  | ok found =>
    obtain ⟨found', hfind'⟩ := h.again hfind
      (FileSystem.blocked?_eq_none_of_isDirectory hsound hdirectory) hdirectory
    rw [(h.accepted_perm hfind).mem_iff, List.mem_filter] at hf
    rw [(h.accepted_perm hfind').mem_iff, List.mem_filter]
    exact ⟨hfile, hf.2⟩

/-- No path of a source file holds a unit that is zero. -/
lemma Searches.zero_notMem (h : Searches tools selects) (hsound : w.files.Sound) {f : SourceFile}
    (hf : f ∈ tools.picked options registered w directory) : (0 : CodeUnit) ∉ f.path := by
  obtain ⟨g, hg, rfl⟩ := h.exists_mem_filesIn hf
  apply Path.zero_notMem_normalize
  intro hzero
  exact hsound.zero_notMem _ (FileSystem.mem_filesIn.mp hg) (List.mem_append_right _ hzero)

/-- A directory that is there can be scanned if a scan worked at another moment. -/
lemma Searches.exists_scanned (h : Searches tools selects) {files : List SourceFile}
    (hscan : tools.scanned options registered w₁ directory = .ok files)
    (hopen : w₂.files.blocked? directory = none)
    (hdirectory : w₂.files.isDirectory directory = true) :
    tools.scanned options registered w₂ directory
      = .ok (tools.picked options registered w₂ directory) := by
  obtain ⟨files', hfiles'⟩ : ∃ files', tools.scanned options registered w₂ directory
      = .ok files' := by
    unfold Tools.scanned at hscan ⊢
    split at hscan
    · cases hscan
    · rename_i found hfind
      obtain ⟨found', hfind'⟩ := h.again hfind hopen hdirectory
      rw [hfind']
      split at hscan
      · cases hscan
      · rename_i hreads
        exact ⟨_, if_neg hreads⟩
  rw [hfiles', eq_of_scanned_eq_ok hfiles']

end Checkout

/-! ## The standard search -/

namespace Glob

variable {fs fs' : FileSystem} {directory : Text} {patterns ignore : List Text}
  {found : List (Text × Text)}

/-- A directory that can be reached can be scanned. -/
lemma scanFault?_eq_none (hopen : fs.blocked? directory = none)
    (hdirectory : fs.isDirectory directory = true) : scanFault? fs directory = none := by
  rw [FileSystem.isDirectory, beq_iff_eq] at hdirectory
  rw [scanFault?, hopen, hdirectory]

/-- Do written patterns select a path of a directory? -/
def selects (patterns ignore : List Text) (directory path : Text) : Bool :=
  match selectionOf patterns ignore with
  | .error _ => false
  | .ok selection => selection.selects directory path

/-- What a search gives are the candidates of its selection. -/
lemma of_find_eq_ok (h : find fs directory patterns ignore = .ok found) :
    ∃ selection, selectionOf patterns ignore = .ok selection
      ∧ found = candidates fs directory selection := by
  rw [find] at h
  cases hselection : selectionOf patterns ignore with
  | error fault =>
    rw [hselection] at h
    cases h
  | ok selection =>
    rw [hselection] at h
    simp only at h
    split at h
    · cases h
    · exact ⟨selection, rfl, (Except.ok.inj h).symm⟩

/-- The files that are found are those that are selected. -/
lemma find_perm (h : find fs directory patterns ignore = .ok found) :
    found.Perm ((fs.filesIn directory).filter fun f => selects patterns ignore directory f.1) := by
  obtain ⟨selection, hselection, rfl⟩ := of_find_eq_ok h
  simp only [selects, hselection]
  exact List.mergeSort_perm _ _

/-- In a directory that can be reached, the patterns tell whether a search succeeds. -/
lemma exists_find (h : find fs directory patterns ignore = .ok found)
    (hopen : fs'.blocked? directory = none) (hdirectory : fs'.isDirectory directory = true) :
    ∃ found', find fs' directory patterns ignore = .ok found' := by
  obtain ⟨selection, hselection, -⟩ := of_find_eq_ok h
  rw [find, hselection]
  simp only [scanFault?_eq_none hopen hdirectory, ite_self]
  exact ⟨_, rfl⟩

end Glob

/-- The patterns of `Glob` are a search. -/
theorem Checkout.searches_standard : Searches standard Glob.selects where
  perm h := Glob.find_perm h
  again h hopen hdirectory := Glob.exists_find h hopen hdirectory

end CallAtlas
