import CallAtlas.Proofs.Workspace.Places
import Mathlib.Data.List.Induction

/-!
# Places that stay as they are

Making directories and writing a file beside a path keep what the path leads to, and on the way to
it they add nothing but directories that were missing. Then the path is read as before: where a
directory was missing, there is still no file. No directory goes away, and the way to every
directory stays open, also when the steps are cut short.
-/

namespace CallAtlas

open CallAtlas.Path

namespace FileSystem

variable {fs fs' fs'' : FileSystem} {path shown : Text} {segments : List Text}

/-! ## The way to a path -/

lemma above_ofSegments (h : ∀ s ∈ segments, IsSegment s) :
    above (ofSegments segments)
      = (List.range (segments.length - 1)).map fun i => ofSegments (segments.take (i + 1)) := by
  unfold above
  simp only [filter_splitAt_ofSegments h]
  rfl

/-- What is above a path is made of its first segments. -/
lemma exists_take_of_mem_above (h : ∀ s ∈ segments, IsSegment s) {d : Text}
    (hd : d ∈ above (ofSegments segments)) :
    ∃ k < segments.length, d = ofSegments (segments.take k) := by
  rw [above_ofSegments h] at hd
  obtain ⟨i, hi, rfl⟩ := List.mem_map.mp hd
  rw [List.mem_range] at hi
  exact ⟨i + 1, by omega, rfl⟩

/-- A path with as many segments at least is not above another one. -/
lemma ofSegments_notMem_above {other : List Text} (h : ∀ s ∈ segments, IsSegment s)
    (hother : ∀ s ∈ other, IsSegment s) (hlength : segments.length ≤ other.length) :
    ofSegments other ∉ above (ofSegments segments) := by
  intro hmem
  obtain ⟨k, hk, heq⟩ := exists_take_of_mem_above h hmem
  have hsame := congrArg List.length (ofSegments_inj hother
    (fun s hs => h s (List.mem_of_mem_take hs)) heq)
  rw [List.length_take] at hsame
  omega

/-- What is above a path is what is above its directory, and the directory. -/
lemma above_append_singleton {name : Text} (hne : segments ≠ [])
    (h : ∀ s ∈ segments ++ [name], IsSegment s) :
    above (ofSegments (segments ++ [name]))
      = above (ofSegments segments) ++ [ofSegments segments] := by
  obtain ⟨n, hn⟩ : ∃ n, segments.length = n + 1 :=
    Nat.exists_eq_succ_of_ne_zero (List.length_pos_iff.mpr hne).ne'
  have htake : ∀ i, i < segments.length →
      (segments ++ [name]).take (i + 1) = segments.take (i + 1) := fun i hi =>
    List.take_append_of_le_length hi
  rw [above_ofSegments h, above_ofSegments fun s hs => h s (List.mem_append_left _ hs),
    List.length_append, List.length_singleton, Nat.add_sub_cancel, hn, Nat.add_sub_cancel,
    List.range_succ, List.map_append, List.map_singleton, htake n (by omega), ← hn,
    List.take_length]
  congr 1
  apply List.map_congr_left
  intro i hi
  rw [htake i (by have := List.mem_range.mp hi; omega)]

/-- What is on the way to a directory, and the directory itself, is on the way to what is in it. -/
lemma mem_above_of_mem {name d : Text} (h : ∀ s ∈ segments ++ [name], IsSegment s)
    (hroot : d ≠ [Text.slash]) (hd : d ∈ above (ofSegments segments) ++ [ofSegments segments]) :
    d ∈ above (ofSegments (segments ++ [name])) := by
  by_cases hne : segments = []
  · subst hne
    exact absurd (List.mem_singleton.mp hd) hroot
  · rw [above_append_singleton hne h]
    exact hd

/-- On the way to a path and to the path itself, what is above a place is what comes before it. -/
lemma above_eq_of_append (h : ∀ s ∈ segments, IsSegment s) {before after : List Text} {d : Text}
    (hway : above (ofSegments segments) ++ [ofSegments segments] = before ++ d :: after) :
    above d = before := by
  induction segments using List.reverseRecOn generalizing after with
  | nil =>
    have hroot : [[Text.slash]] = before ++ d :: after := hway
    obtain ⟨rfl, hd⟩ := List.append_eq_singleton_iff.mp hroot.symm |>.resolve_right (by simp)
    obtain rfl := (List.cons.inj hd).1
    rfl
  | append_singleton segments name ih =>
    rcases List.eq_nil_or_concat after with rfl | ⟨rest, last, rfl⟩
    · obtain ⟨hbefore, hd⟩ := List.append_inj' hway rfl
      rw [← hbefore, (List.cons.inj hd).1]
    · rw [List.concat_eq_append, ← List.cons_append, ← List.append_assoc] at hway
      have hfront := (List.append_inj' hway rfl).1
      have hne : segments ≠ [] := by
        rintro rfl
        have hnone : above (ofSegments [name]) = [] := above_ofSegments h
        rw [List.nil_append, hnone] at hfront
        cases before <;> cases hfront
      rw [above_append_singleton hne h] at hfront
      exact ih (fun s hs => h s (List.mem_append_left _ hs)) hfront

/-- Of two directories on the way to a path, the first one is on the way to the second one. -/
lemma pairwise_above (h : ∀ s ∈ segments, IsSegment s) :
    (above (ofSegments segments)).Pairwise fun d x => d ∈ above x := by
  rw [above_ofSegments h, List.pairwise_map]
  have hlt : (List.range (segments.length - 1)).Pairwise
      fun i j => i < j ∧ j < segments.length - 1 := by
    apply List.pairwise_lt_range.imp_of_mem
    intro i j _ hj hij
    exact ⟨hij, List.mem_range.mp hj⟩
  apply hlt.imp
  rintro i j ⟨hij, hj⟩
  rw [above_ofSegments fun s hs => h s (List.mem_of_mem_take hs), List.mem_map]
  refine ⟨i, ?_, ?_⟩
  · rw [List.mem_range, List.length_take]
    omega
  · rw [List.take_take, Nat.min_eq_left (by omega)]

/-- Below a directory that is missing nothing is there. -/
lemma Sound.node?_eq_none (h : fs.Sound) {d : Text} (hd : d ∈ above path)
    (hmissing : fs.node? d = none) : fs.node? path = none := by
  rw [node?]
  split
  · next hroot =>
    rw [hroot] at hd
    cases hd
  · rw [← Option.not_isSome_iff_eq_none, Option.isSome_iff_exists]
    rintro ⟨n, hn⟩
    have hopen := h.blocked?_eq _ (mem_of_lookup_eq_some hn)
    rw [((blocked?_eq_none_iff.mp hopen).1 d hd).2] at hmissing
    cases hmissing

/-- No file is on the way to a path if the first obstacle is no file and no name that is too
long. -/
lemma Sound.node?_ne_file (h : fs.Sound) (hsegments : ∀ s ∈ segments, IsSegment s)
    (hfile : fs.blocked? (ofSegments segments) ≠ some .notDirectory)
    (hlong : fs.blocked? (ofSegments segments) ≠ some .tooLong) {d : Text}
    (hd : d ∈ above (ofSegments segments)) (content : Text) :
    fs.node? d ≠ some (.file content) := by
  intro hnode
  rw [blocked?_eq_or] at hfile hlong
  cases hfirst : (above (ofSegments segments)).findSome? fs.obstacle with
  | none =>
    have hdirectory := (obstacle_eq_none_iff.mp (List.findSome?_eq_none_iff.mp hfirst d hd)).2
    rw [hnode] at hdirectory
    cases hdirectory
  | some fault =>
    rw [hfirst, Option.some_or, ne_eq, Option.some_inj] at hfile hlong
    obtain ⟨before, x, after, hway, hx, hbefore⟩ := List.findSome?_eq_some_iff.mp hfirst
    obtain ⟨-, hmissing⟩ := of_obstacle_eq_some hx hfile hlong
    have hpairwise := pairwise_above hsegments
    rw [hway] at hd hpairwise
    -- Before the first obstacle there are directories, and behind it there is nothing.
    rcases List.mem_append.mp hd with hd | hd
    · have hdirectory := (obstacle_eq_none_iff.mp (hbefore d hd)).2
      rw [hnode] at hdirectory
      cases hdirectory
    · rcases List.mem_cons.mp hd with rfl | hd
      · rw [hnode] at hmissing
        cases hmissing
      · have habove := List.rel_of_pairwise_cons (List.pairwise_append.mp hpairwise).2.1 hd
        rw [h.node?_eq_none habove hmissing] at hnode
        cases hnode

/-! ## What reading a path depends on -/

/-- Between two states of the files a path has stayed as it is, and so has what is above it, but for
directories that were missing and were made. -/
structure Keeps (path : Text) (fs fs' : FileSystem) : Prop where
  node : fs'.node? path = fs.node? path
  above : ∀ d ∈ above path, fs'.node? d = fs.node? d
    ∨ fs.node? d = none ∧ fs'.node? d = some .directory

namespace Keeps

lemma refl (path : Text) (fs : FileSystem) : Keeps path fs fs :=
  ⟨rfl, fun _ _ => .inl rfl⟩

lemma trans (h : Keeps path fs fs') (h' : Keeps path fs' fs'') : Keeps path fs fs'' := by
  refine ⟨h'.node.trans h.node, ?_⟩
  intro d hd
  rcases h.above d hd with heq | ⟨hnone, hmade⟩
  · rw [← heq]
    exact h'.above d hd
  · rcases h'.above d hd with heq' | ⟨hnone', -⟩
    · exact .inr ⟨hnone, heq'.trans hmade⟩
    · rw [hmade] at hnone'
      cases hnone'

lemma node?_eq (h : Keeps path fs fs') {d : Text} (hd : d ∈ FileSystem.above path)
    {node : FileNode} (hnode : fs.node? d = some node) : fs'.node? d = some node := by
  rcases h.above d hd with heq | ⟨hnone, -⟩
  · exact heq.trans hnode
  · rw [hnode] at hnone
    cases hnone

/-- Directories on the way have stayed. -/
lemma obstacle_eq_none (h : Keeps path fs fs') {d : Text} (hd : d ∈ FileSystem.above path)
    (hnone : fs.obstacle d = none) : fs'.obstacle d = none := by
  obtain ⟨hlong, hnode⟩ := obstacle_eq_none_iff.mp hnone
  exact obstacle_eq_none_iff.mpr ⟨hlong, h.node?_eq hd hnode⟩

lemma blocked?_of_open (h : Keeps path fs fs') (hopen : fs.blocked? path = none) :
    fs'.blocked? path = none := by
  obtain ⟨hway, hlast⟩ := blocked?_eq_none_iff.mp hopen
  exact blocked?_eq_none_iff.mpr
    ⟨fun d hd => ⟨(hway d hd).1, h.node?_eq hd (hway d hd).2⟩, hlast⟩

end Keeps

/-- The first obstacle of a way where no name is too long. -/
lemma exists_obstacle (hshort : ∀ d ∈ above path ++ [path], isTooLong d = false)
    {fault : FileFault} (h : fs.blocked? path = some fault) :
    fault ≠ .tooLong ∧ ∃ before x after, above path = before ++ x :: after
      ∧ fs.obstacle x = some fault ∧ ∀ d ∈ before, fs.obstacle d = none := by
  have hlast : isTooLong path = false :=
    hshort path (List.mem_append_right _ (List.mem_singleton.mpr rfl))
  rw [blocked?_eq_or, hlast, if_neg Bool.false_ne_true, Option.or_none] at h
  obtain ⟨before, x, after, hway, hx, hbefore⟩ := List.findSome?_eq_some_iff.mp h
  refine ⟨?_, before, x, after, hway, hx, hbefore⟩
  rintro rfl
  have hmem : x ∈ above path := by
    rw [hway]
    exact List.mem_append_right _ List.mem_cons_self
  rw [obstacle, hshort x (List.mem_append_left _ hmem), if_neg Bool.false_ne_true] at hx
  split at hx <;> cases hx

namespace Keeps

variable (hshort : ∀ d ∈ FileSystem.above path ++ [path], isTooLong d = false)

include hshort

/-- A file in the way has stayed, and so have the directories before it. -/
lemma blocked?_of_file (h : Keeps path fs fs') (hfile : fs.blocked? path = some .notDirectory) :
    fs'.blocked? path = some .notDirectory := by
  obtain ⟨-, before, x, after, hway, hx, hbefore⟩ := exists_obstacle hshort hfile
  obtain ⟨content, hnode⟩ := of_obstacle_eq_notDirectory hx
  have hmem : ∀ d ∈ before ++ [x], d ∈ FileSystem.above path := by
    intro d hd
    rw [hway, ← List.singleton_append, ← List.append_assoc]
    exact List.mem_append_left _ hd
  have hx' : fs'.obstacle x = some .notDirectory := by
    have hnode' := h.node?_eq (hmem x (by simp)) hnode
    rw [obstacle, hnode] at hx
    rw [obstacle, hnode']
    exact hx
  have hbefore' : ∀ d ∈ before, fs'.obstacle d = none := fun d hd =>
    h.obstacle_eq_none (hmem d (List.mem_append_left _ hd)) (hbefore d hd)
  rw [blocked?_eq_or, List.findSome?_eq_some_iff.mpr ⟨before, x, after, hway, hx', hbefore'⟩,
    Option.some_or]

/-- Where something was missing, there may be directories now, but no file. -/
lemma blocked?_of_missing (hnoFile : ∀ d ∈ FileSystem.above path, ∀ content,
      fs.node? d ≠ some (.file content)) (h : Keeps path fs fs') :
    fs'.blocked? path = none ∨ fs'.blocked? path = some .missing := by
  cases hblocked : fs'.blocked? path with
  | none => exact .inl rfl
  | some fault =>
    obtain ⟨hlong, before, x, after, hway, hx, -⟩ := exists_obstacle hshort hblocked
    have hmem : x ∈ FileSystem.above path := by
      rw [hway]
      exact List.mem_append_right _ List.mem_cons_self
    have hfile : fault ≠ .notDirectory := by
      rintro rfl
      obtain ⟨content, hnode⟩ := of_obstacle_eq_notDirectory hx
      rcases h.above x hmem with heq | ⟨-, hmade⟩
      · exact hnoFile x hmem content (heq.symm.trans hnode)
      · rw [hmade] at hnode
        cases hnode
    obtain ⟨rfl, -⟩ := of_obstacle_eq_some hx hfile hlong
    exact .inr rfl

end Keeps

/-- A path that has stayed as it is is read as before. -/
theorem Keeps.read_eq (hsound : fs.Sound) (hsegments : ∀ s ∈ segments, IsSegment s)
    (hshort : ∀ d ∈ FileSystem.above (ofSegments segments) ++ [ofSegments segments],
      isTooLong d = false) (h : Keeps (ofSegments segments) fs fs') :
    fs'.read (ofSegments segments) shown = fs.read (ofSegments segments) shown := by
  cases hblocked : fs.blocked? (ofSegments segments) with
  | none => rw [read, read, hblocked, h.blocked?_of_open hblocked, h.node]
  | some fault =>
    obtain ⟨hlong, before, x, after, hway, hx, -⟩ := exists_obstacle hshort hblocked
    by_cases hfile : fault = .notDirectory
    · subst hfile
      rw [read, read, hblocked, h.blocked?_of_file hshort hblocked]
      cases refused? "path" shown <;> rfl
    · obtain ⟨rfl, hmissing⟩ := of_obstacle_eq_some hx hfile hlong
      have hmem : x ∈ FileSystem.above (ofSegments segments) := by
        rw [hway]
        exact List.mem_append_right _ List.mem_cons_self
      have hnone := hsound.node?_eq_none hmem hmissing
      have hnoFile : ∀ d ∈ FileSystem.above (ofSegments segments), ∀ content,
          fs.node? d ≠ some (.file content) := by
        intro d hd
        exact hsound.node?_ne_file hsegments (by rw [hblocked]; decide) (by rw [hblocked]; decide) hd
      rw [read_of_missing (h.blocked?_of_missing hshort hnoFile) (h.node.trans hnone),
        read_of_missing (.inr hblocked) hnone]

/-! ## Steps that are cut short -/

/-- What making a directory leaves behind if it fails after a number of directories were made. -/
def makeFirst (fs : FileSystem) (count : ℕ) (directory : Text) : FileSystem :=
  ⟨(((above directory ++ [directory]).takeWhile fun d =>
      fs.obstacle d = none ∨ fs.obstacle d = some .missing).take count).foldl
    (fun nodes d => put d .directory nodes) fs.nodes⟩

/-- What writing a file leaves behind if it fails when the file has some content. -/
def leave (fs : FileSystem) (path content : Text) : FileSystem :=
  if fs.blocked? path = none ∧ fs.node? path ≠ some .directory then
    ⟨put path (.file content) fs.nodes⟩
  else fs

variable {directory draft : Text}

lemma node?_foldl_put (ds : List Text) (nodes : List (Text × FileNode)) (p : Text) :
    (FileSystem.mk (ds.foldl (fun nodes d => put d .directory nodes) nodes)).node? p
      = if p ∈ ds then some .directory else (FileSystem.mk nodes).node? p := by
  by_cases hp : p = [Text.slash]
  · have hroot : ∀ nodes, (FileSystem.mk nodes).node? p = some .directory := fun nodes =>
      if_pos hp
    rw [hroot, hroot, ite_self]
  · have hnode : ∀ nodes, (FileSystem.mk nodes).node? p = nodes.lookup p := fun nodes => if_neg hp
    rw [hnode, hnode]
    induction ds generalizing nodes with
    | nil => rw [List.foldl_nil, if_neg List.not_mem_nil]
    | cons d ds ih =>
      rw [List.foldl_cons, ih, lookup_put]
      by_cases hmem : p ∈ ds
      · rw [if_pos hmem, if_pos (List.mem_cons_of_mem d hmem)]
      · rw [if_neg hmem]
        by_cases hd : p = d
        · rw [if_pos hd, if_pos (hd ▸ List.mem_cons_self)]
        · rw [if_neg hd, if_neg (fun h => (List.mem_cons.mp h).elim hd hmem)]

/-- Directories that are made where no files are keep all paths but their own. -/
lemma keeps_foldl_put {ds : List Text} (hpath : path ∉ ds)
    (hnoFile : ∀ d ∈ ds, ∀ content, fs.node? d ≠ some (.file content)) :
    Keeps path fs ⟨ds.foldl (fun nodes d => put d .directory nodes) fs.nodes⟩ := by
  refine ⟨by rw [node?_foldl_put, if_neg hpath], ?_⟩
  intro d _
  rw [node?_foldl_put]
  by_cases hd : d ∈ ds
  · rw [if_pos hd]
    cases hnode : fs.node? d with
    | none => exact .inr ⟨rfl, rfl⟩
    | some node =>
      cases node with
      | file content => exact absurd hnode (hnoFile d hd content)
      | directory => exact .inl rfl
  · rw [if_neg hd]
    exact .inl rfl

lemma keeps_makeFirst (count : ℕ) (hpath : path ∉ above directory ++ [directory]) :
    Keeps path fs (fs.makeFirst count directory) := by
  apply keeps_foldl_put
  · exact fun h => hpath ((List.takeWhile_subset _) (List.mem_of_mem_take h))
  · intro d hd content hnode
    have hway := List.mem_takeWhile_imp (List.mem_of_mem_take hd)
    rw [decide_eq_true_eq, obstacle, hnode] at hway
    split at hway <;> rcases hway with h | h <;> cases h

/-- What making a directory does: nothing where it is there already, or else it makes all the
directories on the way, where there are no files. -/
lemma of_makeDirectory_eq_ok (hsound : fs.Sound) (hsegments : ∀ s ∈ segments, IsSegment s)
    (h : fs.makeDirectory (ofSegments segments) shown = .ok fs') :
    fs' = fs ∨ fs.node? (ofSegments segments) = none
      ∧ (∀ d ∈ above (ofSegments segments) ++ [ofSegments segments], ∀ content,
          fs.node? d ≠ some (.file content))
      ∧ fs' = ⟨(above (ofSegments segments) ++ [ofSegments segments]).foldl
          (fun nodes d => put d .directory nodes) fs.nodes⟩ := by
  unfold makeDirectory at h
  simp only at h
  split at h
  · cases h
  · cases h
  · cases h
  · next _ hfile hlong =>
    split at h
    · cases h
    · exact .inl (Except.ok.inj h).symm
    · next hnone =>
      refine .inr ⟨hnone, ?_, (Except.ok.inj h).symm⟩
      intro d hd
      rcases List.mem_append.mp hd with hd | hd
      · exact hsound.node?_ne_file hsegments hfile hlong hd
      · intro content hnode
        rw [List.mem_singleton.mp hd, hnone] at hnode
        cases hnode

lemma keeps_of_makeDirectory (hsound : fs.Sound) (hsegments : ∀ s ∈ segments, IsSegment s)
    (hpath : path ∉ above (ofSegments segments) ++ [ofSegments segments])
    (h : fs.makeDirectory (ofSegments segments) shown = .ok fs') : Keeps path fs fs' := by
  rcases of_makeDirectory_eq_ok hsound hsegments h with rfl | ⟨-, hnoFile, rfl⟩
  · exact .refl _ _
  · exact keeps_foldl_put hpath hnoFile

/-- A file that is put beside a path and not on the way to it keeps the path. -/
lemma keeps_put {node : FileNode} (hroot : draft ≠ [Text.slash]) (hdraft : draft ≠ path)
    (habove : draft ∉ above path) : Keeps path fs ⟨put draft node fs.nodes⟩ := by
  refine ⟨by rw [node?_put hroot, if_neg hdraft.symm], ?_⟩
  intro d hd
  have hne : d ≠ draft := by
    rintro rfl
    exact habove hd
  rw [node?_put hroot, if_neg hne]
  exact .inl rfl

lemma keeps_leave {content : Text} (hdraft : draft ≠ path) (habove : draft ∉ above path) :
    Keeps path fs (fs.leave draft content) := by
  unfold leave
  split
  · next h => exact keeps_put (ne_root_of_node? h.2) hdraft habove
  · exact .refl _ _

/-! ## Directories that stay -/

/-- The way to every directory is open. -/
def Connected (fs : FileSystem) : Prop :=
  ∀ d, fs.node? d = some .directory → fs.blocked? d = none

lemma Sound.connected (h : fs.Sound) : fs.Connected := fun _ hd =>
  blocked?_eq_none_of_isDirectory h (beq_iff_eq.mpr hd)

/-- Between two states of the files no directory went away, and none was made where its way is not
open. -/
structure Grows (fs fs' : FileSystem) : Prop where
  directory : ∀ d, fs.node? d = some .directory → fs'.node? d = some .directory
  connected : fs.Connected → fs'.Connected

lemma Grows.refl (fs : FileSystem) : Grows fs fs := ⟨fun _ => id, id⟩

lemma Grows.trans (h : Grows fs fs') (h' : Grows fs' fs'') : Grows fs fs'' :=
  ⟨fun d hd => h'.directory d (h.directory d hd), fun hc => h'.connected (h.connected hc)⟩

/-- A file in the place of what is no directory lets all directories be. -/
lemma grows_put {content : Text} (hplace : fs.node? draft ≠ some .directory) :
    Grows fs ⟨put draft (.file content) fs.nodes⟩ := by
  have hstay : ∀ d, fs.node? d = some .directory →
      (FileSystem.mk (put draft (.file content) fs.nodes)).node? d = some .directory :=
    node?_put_of_directory hplace
  refine ⟨hstay, fun hconnected d hd => ?_⟩
  rw [node?_put (ne_root_of_node? hplace)] at hd
  split at hd
  · cases hd
  · exact blocked?_eq_none_mono (hconnected d hd) hstay

/-- Directories that are made one after another on the way to a path come where the way is open. -/
lemma grows_foldl_put (hsegments : ∀ s ∈ segments, IsSegment s) {ds : List Text}
    (hway : ds <+: above (ofSegments segments) ++ [ofSegments segments])
    (hshort : ∀ d ∈ ds, isTooLong d = false) :
    Grows fs ⟨ds.foldl (fun nodes d => put d .directory nodes) fs.nodes⟩ := by
  have hstay : ∀ d, fs.node? d = some .directory →
      (FileSystem.mk (ds.foldl (fun nodes d => put d .directory nodes) fs.nodes)).node? d
        = some .directory := by
    intro d hd
    rw [node?_foldl_put, hd, ite_self]
  refine ⟨hstay, fun hconnected d hd => ?_⟩
  rw [node?_foldl_put] at hd
  split at hd
  · next hmem =>
    -- What is above a directory that was made was made before it.
    obtain ⟨before, after, rfl⟩ := List.append_of_mem hmem
    obtain ⟨rest, hrest⟩ := hway
    rw [List.append_assoc, List.cons_append] at hrest
    rw [blocked?_eq_none_iff, above_eq_of_append hsegments hrest.symm]
    refine ⟨fun x hx => ?_, hshort d hmem⟩
    have hmade := List.mem_append_left (d :: after) hx
    exact ⟨hshort x hmade, by rw [node?_foldl_put, if_pos hmade]⟩
  · exact blocked?_eq_none_mono (hconnected d hd) hstay

lemma grows_makeFirst (hsegments : ∀ s ∈ segments, IsSegment s) (count : ℕ) :
    Grows fs (fs.makeFirst count (ofSegments segments)) := by
  apply grows_foldl_put hsegments ((List.take_prefix _ _).trans (List.takeWhile_prefix _))
  intro d hd
  have hway := List.mem_takeWhile_imp (List.mem_of_mem_take hd)
  rw [decide_eq_true_eq, obstacle] at hway
  split at hway
  · rcases hway with h | h <;> cases h
  · next hlong => simpa using hlong

lemma grows_of_makeDirectory (hsound : fs.Sound) (hsegments : ∀ s ∈ segments, IsSegment s)
    (hshort : ∀ d ∈ above (ofSegments segments) ++ [ofSegments segments], isTooLong d = false)
    (h : fs.makeDirectory (ofSegments segments) shown = .ok fs') : Grows fs fs' := by
  rcases of_makeDirectory_eq_ok hsound hsegments h with rfl | ⟨-, -, rfl⟩
  · exact .refl _
  · exact grows_foldl_put hsegments (List.prefix_refl _) hshort

lemma grows_leave {content : Text} : Grows fs (fs.leave draft content) := by
  unfold leave
  split
  · next h => exact grows_put h.2
  · exact .refl _

end FileSystem

end CallAtlas
