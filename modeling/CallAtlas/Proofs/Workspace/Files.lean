import CallAtlas.Proofs.Text.Characters
import CallAtlas.Workspace.Files

/-!
# What operations on files leave behind

A file that was put in its place is what its path leads to, and every other path leads to what it
led to before. So a file that was written and moved is read at its new path.
-/

namespace CallAtlas

namespace FileSystem

variable {fs fs' : FileSystem} {path shown content : Text}

/-! ## Nodes -/

lemma lookup_put (path : Text) (node : FileNode) (nodes : List (Text × FileNode)) (p : Text) :
    (put path node nodes).lookup p = if p = path then some node else nodes.lookup p := by
  induction nodes with
  | nil =>
    rw [put, List.lookup_cons, List.lookup_nil]
    by_cases hp : p = path
    · rw [hp, beq_self_eq_true, if_pos rfl]
    · rw [beq_eq_false_iff_ne.mpr hp, if_neg hp]
  | cons n nodes ih =>
    obtain ⟨key, value⟩ := n
    rw [put]
    by_cases hkey : key = path
    · subst hkey
      rw [if_pos rfl, List.lookup_cons, List.lookup_cons]
      by_cases hp : p = key
      · rw [hp, beq_self_eq_true, if_pos rfl]
      · rw [beq_eq_false_iff_ne.mpr hp, if_neg hp]
    · rw [if_neg hkey, List.lookup_cons, List.lookup_cons, ih]
      by_cases hp : p = key
      · subst hp
        simp only [beq_self_eq_true, if_neg hkey]
      · rw [beq_eq_false_iff_ne.mpr hp]

lemma lookup_filter_ne (path : Text) (nodes : List (Text × FileNode)) (p : Text) :
    (nodes.filter fun n => n.1 ≠ path).lookup p = if p = path then none else nodes.lookup p := by
  induction nodes with
  | nil => simp
  | cons n nodes ih =>
    obtain ⟨key, value⟩ := n
    by_cases hkey : key = path
    · subst hkey
      rw [List.filter_cons_of_neg (by simp), ih, List.lookup_cons]
      by_cases hp : p = key
      · rw [if_pos hp, if_pos hp]
      · rw [if_neg hp, if_neg hp, beq_eq_false_iff_ne.mpr hp]
    · rw [List.filter_cons_of_pos (by simpa using hkey), List.lookup_cons, List.lookup_cons, ih]
      by_cases hp : p = key
      · subst hp
        simp only [beq_self_eq_true, if_neg hkey]
      · rw [beq_eq_false_iff_ne.mpr hp]

/-- A node that is put in its place is what its path leads to. -/
lemma node?_put {node : FileNode} {nodes : List (Text × FileNode)} (hroot : path ≠ [Text.slash])
    (p : Text) :
    (FileSystem.mk (put path node nodes)).node? p
      = if p = path then some node else (FileSystem.mk nodes).node? p := by
  rw [node?, node?]
  by_cases hp : p = [Text.slash]
  · rw [if_pos hp, if_pos hp, if_neg (fun h => hroot (h.symm.trans hp))]
  · rw [if_neg hp, if_neg hp, lookup_put]

/-- A node that is taken away is all that is missing. -/
lemma node?_filter_ne {nodes : List (Text × FileNode)} (hroot : path ≠ [Text.slash]) (p : Text) :
    (FileSystem.mk (nodes.filter fun n => n.1 ≠ path)).node? p
      = if p = path then none else (FileSystem.mk nodes).node? p := by
  rw [node?, node?]
  by_cases hp : p = [Text.slash]
  · rw [if_pos hp, if_pos hp, if_neg (fun h => hroot (h.symm.trans hp))]
  · rw [if_neg hp, if_neg hp, lookup_filter_ne]

lemma ne_root_of_node? (h : fs.node? path ≠ some .directory) : path ≠ [Text.slash] := by
  rintro rfl
  exact h rfl

/-- Why a path cannot be walked on from a place on the way. -/
def obstacle (fs : FileSystem) (d : Text) : Option FileFault :=
  if isTooLong d then some .tooLong
  else
    match fs.node? d with
    | some .directory => none
    | some (.file _) => some .notDirectory
    | none => some .missing

lemma blocked?_eq_or (fs : FileSystem) (path : Text) :
    fs.blocked? path = ((above path).findSome? fs.obstacle).or
      (if isTooLong path then some .tooLong else none) := rfl

lemma obstacle_eq_none_iff {d : Text} :
    fs.obstacle d = none ↔ isTooLong d = false ∧ fs.node? d = some .directory := by
  unfold obstacle
  constructor
  · intro h
    split at h
    · cases h
    · next hlong =>
      split at h
      · next hnode => exact ⟨by simpa using hlong, hnode⟩
      · cases h
      · cases h
  · rintro ⟨hlong, hnode⟩
    rw [hlong, if_neg Bool.false_ne_true, hnode]

/-- An obstacle that is neither a file nor a name that is too long is missing. -/
lemma of_obstacle_eq_some {d : Text} {fault : FileFault} (h : fs.obstacle d = some fault)
    (hfile : fault ≠ .notDirectory) (hlong : fault ≠ .tooLong) :
    fault = .missing ∧ fs.node? d = none := by
  unfold obstacle at h
  split at h
  · exact absurd (Option.some.inj h).symm hlong
  · split at h
    · cases h
    · exact absurd (Option.some.inj h).symm hfile
    · next hnode => exact ⟨(Option.some.inj h).symm, hnode⟩

/-- An obstacle that is no directory is a file. -/
lemma of_obstacle_eq_notDirectory {d : Text} (h : fs.obstacle d = some .notDirectory) :
    ∃ content, fs.node? d = some (.file content) := by
  unfold obstacle at h
  split at h
  · cases h
  · split at h
    · cases h
    · next content hnode => exact ⟨content, hnode⟩
    · cases h

/-- The way to a path is open if all directories on it are there. -/
lemma blocked?_eq_none_iff :
    fs.blocked? path = none
      ↔ (∀ d ∈ above path, isTooLong d = false ∧ fs.node? d = some .directory)
        ∧ isTooLong path = false := by
  rw [blocked?_eq_or, Option.or_eq_none_iff, List.findSome?_eq_none_iff]
  simp only [obstacle_eq_none_iff, ite_eq_right_iff, reduceCtorEq, imp_false,
    Bool.not_eq_true]

/-- Where no directory goes away, an open way stays open. -/
lemma blocked?_eq_none_mono (h : fs.blocked? path = none)
    (hkeep : ∀ d, fs.node? d = some .directory → fs'.node? d = some .directory) :
    fs'.blocked? path = none := by
  rw [blocked?_eq_none_iff] at h ⊢
  exact ⟨fun d hd => ⟨(h.1 d hd).1, hkeep d (h.1 d hd).2⟩, h.2⟩

/-- A file in the place of what is no directory lets all directories be. -/
lemma node?_put_of_directory {node : FileNode} (hplace : fs.node? path ≠ some .directory) (d : Text)
    (hd : fs.node? d = some .directory) :
    (FileSystem.mk (put path node fs.nodes)).node? d = some .directory := by
  have hne : d ≠ path := by
    rintro rfl
    exact hplace hd
  rw [node?_put (ne_root_of_node? hplace), if_neg hne]
  exact hd

/-! ## Reading and writing -/

lemma refused?_eq_none_iff {name : String} :
    refused? name shown = none ↔ (0 : CodeUnit) ∉ shown := by
  rw [refused?]
  simp

/-- Where a path leads nowhere, the directories on the way to it do not matter. -/
lemma read_of_missing (hblocked : fs.blocked? path = none ∨ fs.blocked? path = some .missing)
    (hnode : fs.node? path = none) :
    fs.read path shown = match refused? "path" shown with
      | some f => .error f
      | none => .error (FileFault.missing.failure (FileFault.onPath "open" shown)) := by
  rcases hblocked with hblocked | hblocked <;>
    rw [read, hblocked] <;>
    cases refused? "path" shown <;> simp only [hnode]

lemma read_eq_ok (hrefused : refused? "path" shown = none) (hblocked : fs.blocked? path = none)
    (hnode : fs.node? path = some (.file content)) (hslash : Path.hasTrailingSlash shown = false) :
    fs.read path shown = .ok content := by
  rw [read, hrefused, hblocked]
  simp only [hnode, hslash, Bool.false_eq_true, if_false]

/-- A file that was written stands in its place, where there was no directory. -/
lemma of_write_eq_ok (h : fs.write path shown content = .ok fs') :
    fs.node? path ≠ some .directory
      ∧ fs' = ⟨put path (.file (wellFormed content)) fs.nodes⟩ := by
  rw [write] at h
  split at h
  · cases h
  · cases h
  · split at h
    · cases h
    · next hnode =>
      split at h
      · cases h
      · exact ⟨hnode, (Except.ok.inj h).symm⟩

/-- A file is written where nothing or a file is. -/
lemma write_eq_ok (hzero : (0 : CodeUnit) ∉ shown) (hblocked : fs.blocked? path = none)
    (hplace : fs.node? path ≠ some .directory) (hslash : Path.hasTrailingSlash shown = false) :
    fs.write path shown content
      = .ok ⟨put path (.file (wellFormed content)) fs.nodes⟩ := by
  rw [write, refused?_eq_none_iff.mpr hzero, hblocked]
  simp only [hslash, Bool.false_eq_true, if_false]

/-- A file is moved to where nothing or a file is. -/
lemma rename_eq_ok {source target shownSource shownTarget : Text}
    (hzeroSource : (0 : CodeUnit) ∉ shownSource) (hzeroTarget : (0 : CodeUnit) ∉ shownTarget)
    (hblockedSource : fs.blocked? source = none) (hblockedTarget : fs.blocked? target = none)
    (hsource : fs.node? source = some (.file content)) (hplace : fs.node? target ≠ some .directory)
    (hslash : Path.hasTrailingSlash shownTarget = false) :
    fs.rename source target shownSource shownTarget
      = .ok ⟨put target (.file content) (fs.nodes.filter fun n => n.1 ≠ source)⟩ := by
  rw [rename, refused?_eq_none_iff.mpr hzeroSource, refused?_eq_none_iff.mpr hzeroTarget,
    hblockedSource, hblockedTarget, hsource]
  simp only [Option.or_none, hslash, Bool.false_eq_true, if_false, if_neg hplace]

/-- A directory that is there is not made again. -/
lemma makeDirectory_eq_self (hzero : (0 : CodeUnit) ∉ shown) (hblocked : fs.blocked? path = none)
    (hplace : fs.node? path = some .directory) : fs.makeDirectory path shown = .ok fs := by
  rw [makeDirectory, refused?_eq_none_iff.mpr hzero, hblocked, hplace]

/-- A file that was moved stands in its new place, and no longer in the old one. -/
lemma of_rename_eq_ok {source target shownSource shownTarget : Text}
    (hsource : fs.node? source = some (.file content))
    (h : fs.rename source target shownSource shownTarget = .ok fs') :
    refused? "newPath" shownTarget = none ∧ fs.blocked? target = none
      ∧ Path.hasTrailingSlash shownTarget = false ∧ fs.node? target ≠ some .directory
      ∧ fs' = ⟨put target (.file content) (fs.nodes.filter fun n => n.1 ≠ source)⟩ := by
  rw [rename] at h
  split at h
  · cases h
  · cases h
  · next hrefused hblocked =>
    rw [hsource] at h
    simp only at h
    split at h
    · cases h
    · next hslash =>
      split at h
      · cases h
      · next hdirectory =>
        exact ⟨(Option.or_eq_none_iff.mp hrefused).2, (Option.or_eq_none_iff.mp hblocked).2,
          Bool.eq_false_iff.mpr hslash, hdirectory, (Except.ok.inj h).symm⟩

/-- A file that was written and then moved is read at its new path. -/
theorem read_of_write_of_rename {moved : FileSystem} {draft shownDraft : Text}
    (hwrite : fs.write draft shownDraft content = .ok fs')
    (hrename : fs'.rename draft path shownDraft shown = .ok moved) :
    moved.read path shown = .ok (wellFormed content) := by
  obtain ⟨hfree, rfl⟩ := of_write_eq_ok hwrite
  have hdraft := ne_root_of_node? hfree
  have hwritten : (FileSystem.mk (put draft (.file (wellFormed content)) fs.nodes)).node? draft
      = some (.file (wellFormed content)) := by
    rw [node?_put hdraft, if_pos rfl]
  obtain ⟨hrefused, hblocked, hslash, hdirectory, rfl⟩ := of_rename_eq_ok hwritten hrename
  have hroot : path ≠ [Text.slash] := ne_root_of_node? hdirectory
  refine read_eq_ok (refused?_eq_none_iff.mpr (refused?_eq_none_iff.mp hrefused)) ?_ ?_ hslash
  · -- The directories on the way are neither the draft nor the path itself, which are files.
    apply blocked?_eq_none_mono hblocked
    intro d hnode
    have hnotDraft : d ≠ draft := by
      rintro rfl
      rw [hwritten] at hnode
      cases hnode
    have hnotPath : d ≠ path := by
      rintro rfl
      exact hdirectory hnode
    rw [node?_put hroot, if_neg hnotPath, node?_filter_ne hdraft, if_neg hnotDraft, hnode]
  · rw [node?_put hroot, if_pos rfl]

end FileSystem

end CallAtlas
