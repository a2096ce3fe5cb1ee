import CallAtlas.Proofs.Workspace.Disturbed
import CallAtlas.Proofs.Workspace.Store

/-!
# What saving adds to the files

Where no draft was left behind before, a model that was saved is a file more, or a file with another
content, and the directories on the way to it were made if they were missing. All other files are as
they were, and in the same order.
-/

namespace CallAtlas

open CallAtlas.Path

namespace FileSystem

variable {fs fs' : FileSystem} {path shown content : Text} {node : FileNode}
  {nodes : List (Text × FileNode)} {β : Type}

/-- The files with a file in its place, and with directories on the way to it. -/
structure Adds (path content : Text) (fs fs' : FileSystem) : Prop where
  place : fs.node? path ≠ some .directory
  node : fs'.node? path = some (.file content)
  elsewhere : ∀ p, p ≠ path → fs'.node? p = fs.node? p
    ∨ p ∈ above path ∧ fs.node? p = none ∧ fs'.node? p = some .directory
  filter_filesIn : ∀ (directory : Text) (keep : Text × Text → Bool),
    (∀ f, opening directory ++ f.1 = path → keep f = false) →
    (fs'.filesIn directory).filter keep = (fs.filesIn directory).filter keep

/-- All directories are still there. -/
lemma Adds.isDirectory (h : Adds path content fs fs') {d : Text}
    (hd : fs.node? d = some .directory) : fs'.node? d = some .directory := by
  have hne : d ≠ path := by
    rintro rfl
    exact h.place hd
  rcases h.elsewhere d hne with heq | ⟨-, hmissing, -⟩
  · exact heq.trans hd
  · rw [hd] at hmissing
    cases hmissing

/-! ## Lists of nodes -/

lemma mem_put {n : Text × FileNode} (h : n ∈ put path node nodes) :
    n = (path, node) ∨ n ∈ nodes := by
  induction nodes with
  | nil => exact .inl (List.mem_singleton.mp h)
  | cons m nodes ih =>
    rw [put] at h
    split at h
    · exact (List.mem_cons.mp h).imp_right (List.mem_cons_of_mem m)
    · rcases List.mem_cons.mp h with rfl | h
      · exact .inr List.mem_cons_self
      · exact (ih h).imp_right (List.mem_cons_of_mem m)

/-- What is read off all nodes but those in a place does not change with what is put there. -/
lemma filterMap_put {f : Text × FileNode → Option β} (hnode : f (path, node) = none)
    (hnodes : ∀ n ∈ nodes, n.1 = path → f n = none) :
    (put path node nodes).filterMap f = nodes.filterMap f := by
  induction nodes with
  | nil => rw [put, List.filterMap_cons_none hnode]
  | cons m nodes ih =>
    rw [put]
    split
    · next hm =>
      rw [List.filterMap_cons_none hnode, List.filterMap_cons_none
        (hnodes m List.mem_cons_self hm)]
    · rw [List.filterMap_cons, List.filterMap_cons,
        ih fun n hn => hnodes n (List.mem_cons_of_mem m hn)]

/-- A node that is put where there was none and taken away again leaves nothing behind. -/
lemma filter_put (h : ∀ n ∈ nodes, n.1 ≠ path) :
    (put path node nodes).filter (fun n => n.1 ≠ path) = nodes := by
  induction nodes with
  | nil => simp [put]
  | cons m nodes ih =>
    have hm : m.1 ≠ path := h m List.mem_cons_self
    rw [put, if_neg hm, List.filter_cons_of_pos (by simpa using hm),
      ih fun n hn => h n (List.mem_cons_of_mem m hn)]

/-- Directories that are made where no files are do not change what is read off files. -/
lemma filterMap_foldl_put {f : Text × FileNode → Option β} (hf : ∀ d, f (d, .directory) = none)
    {ds : List Text} (hds : ∀ d ∈ ds, ∀ content, (d, FileNode.file content) ∉ nodes) :
    (ds.foldl (fun nodes d => put d .directory nodes) nodes).filterMap f = nodes.filterMap f := by
  induction ds generalizing nodes with
  | nil => rfl
  | cons d ds ih =>
    rw [List.foldl_cons, ih, filterMap_put (hf d)]
    · rintro ⟨p, node⟩ hn rfl
      cases node with
      | file content => exact absurd hn (hds p List.mem_cons_self content)
      | directory => exact hf p
    · intro d' hd' content hmem
      rcases mem_put hmem with heq | hmem
      · cases heq
      · exact hds d' (List.mem_cons_of_mem d hd') content hmem

/-- The file of a directory that a node is. -/
def fileIn? (directory : Text) (n : Text × FileNode) : Option (Text × Text) :=
  match n.2 with
  | .file content =>
    if (opening directory).isPrefixOf n.1 then some (n.1.drop (opening directory).length, content)
    else none
  | .directory => none

lemma of_fileIn?_eq_some {directory : Text} {n : Text × FileNode} {f : Text × Text}
    (h : fileIn? directory n = some f) : opening directory ++ f.1 = n.1 := by
  unfold fileIn? at h
  split at h
  · obtain ⟨hbegins, hf⟩ := Option.ite_none_right_eq_some.mp h
    obtain rfl := Option.some.inj hf
    obtain ⟨rest, hrest⟩ := List.isPrefixOf_iff_prefix.mp hbegins
    rw [← hrest, List.drop_left]
  · cases h

/-- The files of a directory that a test keeps, read off the nodes. -/
lemma filter_filesIn (fs : FileSystem) (directory : Text) (keep : Text × Text → Bool) :
    (fs.filesIn directory).filter keep
      = fs.nodes.filterMap fun n => (fileIn? directory n).filter keep :=
  List.filter_filterMap

/-! ## The way to a path -/

lemma ne_root_of_mem_above {d : Text} (h : d ∈ above path) : d ≠ [Text.slash] := by
  unfold above at h
  obtain ⟨i, hi, rfl⟩ := List.mem_map.mp h
  rw [List.mem_range] at hi
  intro hroot
  have hjoin := (List.cons.inj hroot).2
  have hne : ∀ s ∈ (Text.splitAt Text.slash path).filter (fun s => s ≠ []), s ≠ [] := fun s hs =>
    of_decide_eq_true (List.mem_filter.mp hs).2
  match hsegments : (Text.splitAt Text.slash path).filter fun s => s ≠ [] with
  | [] =>
    rw [hsegments] at hi
    exact absurd hi (Nat.not_lt_zero i)
  | s :: rest =>
    have hs : s ≠ [] := hne s (hsegments ▸ List.mem_cons_self)
    rw [hsegments, List.take_succ_cons] at hjoin
    cases hrest : rest.take i with
    | nil =>
      rw [hrest] at hjoin
      exact hs hjoin
    | cons x xs =>
      rw [hrest] at hjoin
      exact hs (List.append_eq_nil_iff.mp (List.append_eq_nil_iff.mp hjoin).1).1

/-- A file that a path does not lead to is not in the list of nodes either. -/
lemma Sound.file_notMem (h : fs.Sound) {d : Text} (hroot : d ≠ [Text.slash])
    (hd : ∀ content, fs.node? d ≠ some (.file content)) (content : Text) :
    (d, FileNode.file content) ∉ fs.nodes := by
  intro hmem
  have hsome : (fs.nodes.lookup d).isSome = true :=
    List.lookup_isSome_iff.mpr ⟨_, hmem, beq_self_eq_true d⟩
  obtain ⟨n, hn⟩ := Option.isSome_iff_exists.mp hsome
  have hsame : n = .file content := eq_of_mem_of_nodup h.nodup (mem_of_lookup_eq_some hn) hmem
  apply hd content
  rw [node?, if_neg hroot, hn, hsame]

/-! ## The three steps -/

variable {segments : List Text} {name draft : Text}

/-- Directories that are made on the way to a path change nothing else. -/
lemma of_makeDirectory (hsound : fs.Sound) (h : ∀ s ∈ segments ++ [name], IsSegment s)
    (hmake : fs.makeDirectory (ofSegments segments) shown = .ok fs') :
    (∀ p, fs'.node? p = fs.node? p ∨ p ∈ above (ofSegments (segments ++ [name]))
      ∧ fs.node? p = none ∧ fs'.node? p = some .directory)
    ∧ ∀ directory keep, (fs'.filesIn directory).filter keep
      = (fs.filesIn directory).filter keep := by
  have hsegments : ∀ s ∈ segments, IsSegment s := fun s hs => h s (List.mem_append_left _ hs)
  rcases of_makeDirectory_eq_ok hsound hsegments hmake with rfl | ⟨hnone, hnoFile, rfl⟩
  · exact ⟨fun p => .inl rfl, fun _ _ => rfl⟩
  · have hroot : ∀ d ∈ above (ofSegments segments) ++ [ofSegments segments], d ≠ [Text.slash] := by
      intro d hd
      rcases List.mem_append.mp hd with hd | hd
      · exact ne_root_of_mem_above hd
      · rw [List.mem_singleton.mp hd]
        exact ne_root_of_node? (by rw [hnone]; exact fun h => nomatch h)
    constructor
    · intro p
      rw [node?_foldl_put]
      by_cases hp : p ∈ above (ofSegments segments) ++ [ofSegments segments]
      · rw [if_pos hp]
        cases hnode : fs.node? p with
        | none => exact .inr ⟨mem_above_of_mem h (hroot p hp) hp, rfl, rfl⟩
        | some node =>
          cases node with
          | file content => exact absurd hnode (hnoFile p hp content)
          | directory => exact .inl rfl
      · rw [if_neg hp]
        exact .inl rfl
    · intro directory keep
      rw [filter_filesIn, filter_filesIn]
      exact filterMap_foldl_put (fun d => rfl) fun d hd content =>
        hsound.file_notMem (hroot d hd) (hnoFile d hd) content

/-- A draft that is written where no node was and moved away again leaves nothing behind. -/
lemma filter_put_of_node?_eq_none (hroot : draft ≠ [Text.slash]) (hnone : fs.node? draft = none) :
    (put draft node fs.nodes).filter (fun n => n.1 ≠ draft) = fs.nodes := by
  apply filter_put
  intro n hn hdraft
  have hsome : (fs.nodes.lookup draft).isSome = true :=
    List.lookup_isSome_iff.mpr ⟨n, hn, beq_iff_eq.mpr hdraft.symm⟩
  rw [node?, if_neg hroot] at hnone
  rw [hnone] at hsome
  cases hsome

/-- A file in a place that the test does not keep makes no difference to the files that it keeps. -/
lemma filter_filesIn_put {directory : Text} {keep : Text × Text → Bool}
    (hkeep : ∀ f, opening directory ++ f.1 = path → keep f = false) :
    (FileSystem.filesIn ⟨put path node fs.nodes⟩ directory).filter keep
      = (fs.filesIn directory).filter keep := by
  have hnoFile : ∀ n : Text × FileNode, n.1 = path →
      (fileIn? directory n).filter keep = none := by
    intro n hn
    rw [Option.filter_eq_none_iff]
    intro f hf hkept
    rw [hkeep f ((of_fileIn?_eq_some hf).trans hn)] at hkept
    cases hkept
  rw [filter_filesIn, filter_filesIn]
  exact filterMap_put (hnoFile _ rfl) fun n _ hn => hnoFile n hn

/-- A file that was written where nothing was and then moved is all that is added, together with the
directories that were made. -/
theorem adds_of_steps {made written moved : FileSystem} {shownDraft : Text} (hsound : fs.Sound)
    (h : ∀ s ∈ segments ++ [name], IsSegment s)
    (hnone : fs.node? draft = none) (hdraft : draft ∉ above (ofSegments (segments ++ [name])))
    (hmade : fs.makeDirectory (ofSegments segments) shown = .ok made)
    (hwritten : made.write draft shownDraft content = .ok written)
    {shownPath : Text} (hmoved : written.rename draft (ofSegments (segments ++ [name])) shownDraft
      shownPath = .ok moved) :
    Adds (ofSegments (segments ++ [name])) (wellFormed content) fs moved := by
  obtain ⟨hnode, hfiles⟩ := of_makeDirectory hsound h hmade
  obtain ⟨hfree, rfl⟩ := of_write_eq_ok hwritten
  have hroot := ne_root_of_node? hfree
  have hdraftMade : made.node? draft = none := by
    rcases hnode draft with heq | ⟨habove, -⟩
    · exact heq.trans hnone
    · exact absurd habove hdraft
  have hwrittenDraft : (FileSystem.mk (put draft (.file (wellFormed content)) made.nodes)).node?
      draft = some (.file (wellFormed content)) := by
    rw [node?_put hroot, if_pos rfl]
  obtain ⟨-, -, -, hplace, rfl⟩ := of_rename_eq_ok hwrittenDraft hmoved
  rw [filter_put_of_node?_eq_none hroot hdraftMade]
  have hpath := ne_root_of_node? hplace
  constructor
  · intro hdirectory
    have hne : ofSegments (segments ++ [name]) ≠ draft := by
      intro heq
      rw [heq, hnone] at hdirectory
      cases hdirectory
    rw [node?_put hroot, if_neg hne] at hplace
    rcases hnode (ofSegments (segments ++ [name])) with heq | ⟨-, hmissing, -⟩
    · exact hplace (heq.trans hdirectory)
    · rw [hdirectory] at hmissing
      cases hmissing
  · rw [node?_put hpath, if_pos rfl]
  · intro p hp
    rw [node?_put hpath, if_neg hp]
    exact hnode p
  · intro directory keep hkeep
    rw [filter_filesIn_put hkeep, hfiles directory keep]

end FileSystem

namespace ModelFile

/-- A model that was saved where no draft was left behind is all that is added to the files. -/
theorem adds_of_save {path : Text} {m : RepoModel} {md : RepoMetadata} {s t : Session Workspace}
    (hname : baseName path ∉ [[], here, up]) (hprocess : Text.slash ∉ s.host.process)
    (hsound : s.world.files.Sound)
    (hdraft : s.world.node? (temporary path s.host.process) = none)
    (h : (save path m md).run s = (.ok (), t)) :
    FileSystem.Adds (s.world.absolute path) (RepoModel.documentText (m.toDocument md))
        s.world.files t.world.files
      ∧ t.world = { s.world with files := t.world.files } := by
  obtain ⟨segments, hsegments, hplace, hdirectory, -, habove, -⟩ :=
    exists_segments s.world hname hprocess
  obtain ⟨made, written, moved, hmade, hwritten, hmoved, hworld, -, -⟩ := exists_steps h
  rw [hdirectory] at hmade
  rw [hplace] at habove hmoved ⊢
  have hadds := FileSystem.adds_of_steps hsound hsegments hdraft habove hmade hwritten hmoved
  rw [wellFormed_documentText] at hadds
  exact ⟨by rwa [hworld], by rw [hworld]⟩

end ModelFile

end CallAtlas
