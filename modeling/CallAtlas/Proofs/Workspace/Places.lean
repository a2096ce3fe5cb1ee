import CallAtlas.Proofs.Path.Resolved
import CallAtlas.Proofs.Workspace.Files
import CallAtlas.Proofs.Workspace.Scan
import CallAtlas.Workspace.Store

/-!
# Where a model, its directory and its draft are

The directory of a path that ends in a name is right above it, and the draft stands beside the path
or below it. So making the directory and writing the draft touch neither the path itself nor a file
on the way to it. Nothing else matters when the path is read.
-/

namespace CallAtlas

namespace Path

/-! ## The name at the end of a path -/

/-- A path is what comes before its last segment, and the last segment. -/
lemma exists_opening (t : Text) : ∃ opening last, t = opening ++ last ∧ Text.slash ∉ last
    ∧ (opening = [] ∨ ∃ body, opening = body ++ [Text.slash])
    ∧ (t.reverse.dropWhile fun u => u ≠ Text.slash).reverse = opening
    ∧ (Text.splitAt Text.slash t).getLast? = some last := by
  have hsplit := List.takeWhile_append_dropWhile (p := fun u => decide (u ≠ Text.slash))
    (l := t.reverse)
  have hlast : Text.slash ∉ (t.reverse.takeWhile fun u => decide (u ≠ Text.slash)).reverse := by
    intro hslash
    simpa using List.mem_takeWhile_imp (List.mem_reverse.mp hslash)
  have ht : t = (t.reverse.dropWhile fun u => decide (u ≠ Text.slash)).reverse
      ++ (t.reverse.takeWhile fun u => decide (u ≠ Text.slash)).reverse := by
    rw [← List.reverse_append, hsplit, List.reverse_reverse]
  refine ⟨_, _, ht, hlast, ?_⟩
  -- What comes before the last segment is empty, or it ends with the slash of the cut.
  cases hrest : t.reverse.dropWhile fun u => decide (u ≠ Text.slash) with
  | nil =>
    rw [hrest, List.reverse_nil, List.nil_append] at ht
    refine ⟨.inl rfl, rfl, ?_⟩
    rw [← ht] at hlast ⊢
    rw [Text.splitAt_of_notMem hlast]
    rfl
  | cons u rest =>
    have hu : u = Text.slash := by
      have hne : t.reverse.dropWhile (fun u => decide (u ≠ Text.slash)) ≠ [] := by
        rw [hrest]
        exact List.cons_ne_nil _ _
      have hhead := List.head_dropWhile_not (fun u => decide (u ≠ Text.slash)) hne
      simp only [hrest, List.head_cons] at hhead
      simpa using hhead
    rw [hrest, hu, List.reverse_cons] at ht
    rw [hu, List.reverse_cons]
    refine ⟨.inr ⟨_, rfl⟩, rfl, ?_⟩
    conv_lhs => rw [ht]
    rw [List.append_assoc, List.singleton_append, Text.splitAt_append_cons,
      Text.splitAt_of_notMem hlast, List.getLast?_append]
    rfl

variable {path : Text}

/-- The last segment of a path stands between what the directory is made of and slashes. -/
lemma exists_baseName (path : Text) :
    ∃ opening slashes, path = opening ++ baseName path ++ List.replicate slashes Text.slash
      ∧ Text.slash ∉ baseName path
      ∧ (opening = [] ∨ ∃ body, opening = body ++ [Text.slash])
      ∧ ((dropTrailingSlashes path).reverse.dropWhile fun u => u ≠ Text.slash).reverse
        = opening := by
  obtain ⟨opening, last, hbody, hlast, hopening, hdrop, hget⟩ :=
    exists_opening (dropTrailingSlashes path)
  have hbase : baseName path = last := by
    rw [baseName, hget]
    rfl
  obtain ⟨slashes, hslashes⟩ := exists_append_replicate path
  rw [hbase]
  refine ⟨opening, slashes, ?_, hlast, hopening, hdrop⟩
  rw [← hbody]
  exact hslashes

lemma isAbsolute_append {a : Text} (h : a ≠ []) (b : Text) :
    isAbsolute (a ++ b) = isAbsolute a := by
  rw [isAbsolute, isAbsolute, List.head?_append_of_ne_nil _ h]

lemma isAbsolute_eq_false {s : Text} (h : Text.slash ∉ s) : isAbsolute s = false := by
  cases s with
  | nil => rfl
  | cons u rest =>
    have hu : u ≠ Text.slash := fun hu => h (hu ▸ List.mem_cons_self)
    rw [isAbsolute, List.head?_cons]
    simpa using hu

lemma walk_opening {opening rest : Text}
    (hopening : opening = [] ∨ ∃ body, opening = body ++ [Text.slash]) (walked : List Text) :
    walk (opening ++ rest) walked = walk rest (walk opening walked) := by
  rcases hopening with rfl | ⟨body, rfl⟩
  · rw [List.nil_append, walk_nil]
  · rw [List.append_assoc, List.singleton_append, walk_append_cons, walk_append_cons, walk_nil]

end Path

namespace ModelFile

open CallAtlas.Path

variable {path process base : Text}

/-! ## The directory of a path -/

/-- The directory of a path is absolute if the path is. -/
lemma isAbsolute_directoryOf (hname : baseName path ≠ []) :
    isAbsolute (directoryOf path) = isAbsolute path := by
  obtain ⟨opening, slashes, hpath, hslash, -, hdrop⟩ := exists_baseName path
  obtain ⟨n, hn⟩ := exists_append_replicate opening
  unfold directoryOf
  simp only [hdrop]
  by_cases hopening : opening = []
  · -- There is no slash before the name, so the directory is the present one.
    rw [hopening] at hpath ⊢
    rw [if_pos (show dropTrailingSlashes [] = [] from rfl), if_pos rfl, hpath, List.nil_append,
      isAbsolute_append hname, isAbsolute_eq_false hslash]
    rfl
  · have habsolute : isAbsolute path = isAbsolute opening := by
      rw [hpath, List.append_assoc, isAbsolute_append hopening]
    rw [if_neg hopening, habsolute]
    by_cases hdirectory : dropTrailingSlashes opening = []
    · rw [if_pos hdirectory]
      rw [hdirectory, List.nil_append] at hn
      cases n with
      | zero => exact absurd hn hopening
      | succ n => rw [hn]; rfl
    · rw [if_neg hdirectory]
      conv_rhs => rw [hn]
      rw [isAbsolute_append hdirectory]

/-- The directory of a path is walked over as what comes before the last segment. -/
lemma walk_directoryOf {opening : Text} (hdrop : ((dropTrailingSlashes path).reverse.dropWhile
    fun u => u ≠ Text.slash).reverse = opening) (walked : List Text) :
    walk (directoryOf path) walked = walk opening walked := by
  have hroot : walk [Text.slash] walked = walked := by
    rw [← walk_nil walked]
    exact walk_append_replicate [] 1 _
  unfold directoryOf
  simp only [hdrop]
  rw [← walk_dropTrailingSlashes opening]
  split
  · next hempty =>
    rw [hempty, walk_nil]
    split
    · exact walk_of_notMem (by decide) walked
    · exact hroot
  · rfl

/-! ## The draft of a path -/

/-- What is put behind a path for its draft. -/
def draftEnd (process : Text) : Text := Text.dot :: process ++ Text.ofString ".tmp"

lemma temporary_eq (path process : Text) : temporary path process = path ++ draftEnd process :=
  List.append_assoc _ _ _

lemma slash_notMem_draftEnd (hprocess : Text.slash ∉ process) :
    Text.slash ∉ draftEnd process := by
  rw [draftEnd, List.cons_append, List.mem_cons, List.mem_append]
  rintro (hdot | hslash | hslash)
  · exact absurd hdot (by decide)
  · exact hprocess hslash
  · exact absurd hslash (by decide)

lemma length_draftEnd (process : Text) : 3 ≤ (draftEnd process).length := by
  have htmp : (Text.ofString ".tmp").length = 4 := rfl
  rw [draftEnd, List.cons_append, List.length_cons, List.length_append, htmp]
  omega

/-- A text of three units or more is a name. -/
lemma isName_of_length {s : Text} (h : 3 ≤ s.length) : s ∉ [[], here, up] := by
  simp only [List.mem_cons, List.not_mem_nil, or_false, not_or]
  refine ⟨?_, ?_, ?_⟩ <;> rintro rfl <;> exact absurd h (by decide)

/-- The draft of a path is beside it, or below it if slashes end the path. -/
lemma exists_walk_temporary (hprocess : Text.slash ∉ process) {opening name : Text} {slashes : ℕ}
    (hpath : path = opening ++ name ++ List.replicate slashes Text.slash)
    (hopening : opening = [] ∨ ∃ body, opening = body ++ [Text.slash])
    (hslash : Text.slash ∉ name) (hname : name ∉ [[], here, up]) (walked : List Text) :
    ∃ draft, (∀ s ∈ draft, IsSegment s) ∧ draft ≠ [] ∧ draft ≠ [name]
      ∧ walk (temporary path process) walked = draft.reverse ++ walk opening walked := by
  have hend := slash_notMem_draftEnd hprocess
  have hlength := length_draftEnd process
  have hdraftEnd : IsSegment (draftEnd process) :=
    ⟨List.ne_nil_of_length_pos (by omega), hend⟩
  cases slashes with
  | zero =>
    have hboth : Text.slash ∉ name ++ draftEnd process :=
      fun h => (List.mem_append.mp h).elim hslash hend
    have hlong : 3 ≤ (name ++ draftEnd process).length := by
      rw [List.length_append]
      omega
    refine ⟨[name ++ draftEnd process], List.forall_mem_singleton.mpr
      ⟨List.ne_nil_of_length_pos (by omega), hboth⟩, List.cons_ne_nil _ _, ?_, ?_⟩
    · intro heq
      have hsame := congrArg List.length (List.cons.inj heq).1
      rw [List.length_append] at hsame
      omega
    · rw [temporary_eq, hpath, List.replicate_zero, List.append_nil, List.append_assoc,
        walk_opening hopening, walk_of_notMem hboth, enter_of_name (isName_of_length hlong)]
      rfl
  | succ n =>
    refine ⟨[name, draftEnd process], ?_, List.cons_ne_nil _ _, ?_, ?_⟩
    · simp only [List.forall_mem_cons, List.not_mem_nil, false_imp_iff, forall_true_iff, and_true]
      exact ⟨⟨fun hempty => hname (hempty ▸ List.mem_cons_self), hslash⟩, hdraftEnd⟩
    · exact fun heq => nomatch heq
    · rw [temporary_eq, hpath, List.replicate_succ', ← List.append_assoc, List.append_assoc,
        List.singleton_append, walk_append_cons, walk_append_replicate, walk_opening hopening,
        walk_of_notMem hslash, walk_of_notMem hend, enter_of_name hname,
        enter_of_name (isName_of_length hlength)]
      rfl

/-! ## All three -/

/-- The places of a path, its directory and its draft: the first one is right below the second one,
and the third one is below the second one too, but not on the way to the first one. -/
theorem exists_places (base : Text) (hname : baseName path ∉ [[], here, up])
    (hprocess : Text.slash ∉ process) :
    ∃ segments draft, (∀ s ∈ segments ++ [baseName path], IsSegment s)
      ∧ (∀ s ∈ segments ++ draft, IsSegment s) ∧ draft ≠ [] ∧ draft ≠ [baseName path]
      ∧ resolve base path = ofSegments (segments ++ [baseName path])
      ∧ resolve base (directoryOf path) = ofSegments segments
      ∧ resolve base (temporary path process) = ofSegments (segments ++ draft) := by
  have hempty : baseName path ≠ [] := fun hempty => hname (hempty ▸ List.mem_cons_self)
  obtain ⟨opening, slashes, hpath, hslash, hopening, hdrop⟩ := exists_baseName path
  obtain ⟨draft, hdraft, hne, hother, hwalk⟩ :=
    exists_walk_temporary hprocess hpath hopening hslash hname (start base path)
  have hsegments : ∀ s ∈ (walk opening (start base path)).reverse, IsSegment s := fun s hs =>
    isSegment_of_mem_walk opening (isSegment_of_mem_start base path) s (List.mem_reverse.mp hs)
  have hpathNe : path ≠ [] := by
    rintro rfl
    exact hempty rfl
  refine ⟨(walk opening (start base path)).reverse, draft, ?_, ?_, hne, hother, ?_, ?_, ?_⟩
  · exact List.forall_mem_append.mpr ⟨hsegments, List.forall_mem_singleton.mpr ⟨hempty, hslash⟩⟩
  · exact List.forall_mem_append.mpr ⟨hsegments, hdraft⟩
  · have hstep : ∀ walked, walk path walked = baseName path :: walk opening walked := by
      intro walked
      conv_lhs => rw [hpath]
      rw [walk_append_replicate, walk_opening hopening, walk_of_notMem hslash,
        enter_of_name hname]
    rw [resolve_eq, hstep, List.reverse_cons]
  · rw [resolve_eq, start, isAbsolute_directoryOf hempty, ← start, walk_directoryOf hdrop]
  · rw [resolve_eq, start, temporary_eq, isAbsolute_append hpathNe, ← start, ← temporary_eq, hwalk,
      List.reverse_append, List.reverse_reverse]

end ModelFile

end CallAtlas
