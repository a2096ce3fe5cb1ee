import CallAtlas.Proofs.Workspace.Keeping

/-!
# Paths that are followed

A path stands for a place by its text, where `..` takes back the segment before it. The system
follows the path from directory to directory instead, so that it meets a directory that is missing,
or a file in its place, also where `..` leads out of it again. Where each `..` of a path leads out
of a directory that is there, both come to the same: the path is read as it is read by following it,
and so it is after any change by which no directory goes away.
-/

namespace CallAtlas

open CallAtlas.Path

namespace Path

/-- A path is split into what stands before its last segment, the segment, and nothing behind each
slash at the end. -/
lemma exists_splitAt_eq {path : Text} (hname : baseName path ≠ []) :
    ∃ rest slashes, Text.splitAt Text.slash path
        = rest ++ baseName path :: List.replicate slashes []
      ∧ hasTrailingSlash path = decide (0 < slashes) := by
  obtain ⟨opening, slashes, hpath, hslash, hopening, -⟩ := exists_baseName path
  generalize baseName path = name at hpath hslash hname
  have hend : Text.splitAt Text.slash (name ++ List.replicate slashes Text.slash)
      = name :: List.replicate slashes [] := by
    clear hpath
    induction slashes with
    | zero => rw [List.replicate_zero, List.append_nil, Text.splitAt_of_notMem hslash]; rfl
    | succ n ih =>
      rw [List.replicate_succ', ← List.append_assoc, Text.splitAt_append_cons, ih,
        List.replicate_succ']
      rfl
  have htrailing : hasTrailingSlash path = decide (0 < slashes) := by
    rw [hasTrailingSlash, hpath]
    cases slashes with
    | zero =>
      rw [List.replicate_zero, List.append_nil, List.getLast?_append_of_ne_nil _ hname]
      have hlast : name.getLast? ≠ some Text.slash :=
        fun h => hslash (List.mem_of_getLast? h)
      simpa using hlast
    | succ n =>
      rw [List.replicate_succ', ← List.append_assoc, List.getLast?_concat]
      rfl
  rcases hopening with rfl | ⟨body, rfl⟩
  · refine ⟨[], slashes, ?_, htrailing⟩
    conv_lhs => rw [hpath]
    exact hend
  · refine ⟨Text.splitAt Text.slash body, slashes, ?_, htrailing⟩
    conv_lhs => rw [hpath]
    rw [List.append_assoc, List.append_assoc, List.singleton_append, Text.splitAt_append_cons, hend]

lemma foldl_enter_blanks (slashes : ℕ) (walked : List Text) :
    (List.replicate slashes []).foldl (enter true) walked = walked := by
  induction slashes with
  | zero => rfl
  | succ n ih => rw [List.replicate_succ, List.foldl_cons, enter_of_blank (.inl rfl), ih]

end Path

namespace FileSystem

variable {fs : FileSystem} {walked rest : List Text} {name : Text}

/-! ## Following segments -/

/-- The place that was walked to; the last segment stands first. -/
def placeOf (walked : List Text) : Text := ofSegments walked.reverse

/-- Takes one segment, which is looked up in a directory that is there. -/
def stepFrom (fs : FileSystem) (walked : List Text) (segment : Text) :
    Except FileFault (List Text) :=
  match fs.node? (placeOf walked) with
  | some .directory =>
    if maxSegment < segment.utf8Length then .error .tooLong else .ok (enter true walked segment)
  | some (.file _) => .error .notDirectory
  | none => .error .missing

/-- Takes segments one after another. -/
def follow (fs : FileSystem) (walked segments : List Text) : Except FileFault (List Text) :=
  segments.foldlM fs.stepFrom walked

/-- Each `..` of segments leads out of a directory that is there. -/
def StepsOut (fs : FileSystem) (walked segments : List Text) : Prop :=
  ∀ before after, segments = before ++ up :: after →
    fs.node? (placeOf (before.foldl (enter true) walked)) = some .directory

lemma stepsOut_nil (fs : FileSystem) (walked : List Text) : fs.StepsOut walked [] := by
  intro before after heq
  exact absurd heq.symm (List.append_ne_nil_of_right_ne_nil _ (List.cons_ne_nil _ _))

lemma stepsOut_cons {s : Text} :
    fs.StepsOut walked (s :: rest)
      ↔ (s = up → fs.node? (placeOf walked) = some .directory)
        ∧ fs.StepsOut (enter true walked s) rest := by
  constructor
  · intro h
    refine ⟨fun hup => h [] rest (by rw [hup]; rfl), fun before after heq => ?_⟩
    exact h (s :: before) after (by rw [heq]; rfl)
  · rintro ⟨hfirst, htail⟩ before after heq
    cases before with
    | nil => exact hfirst (List.cons.inj heq).1
    | cons x before =>
      obtain ⟨rfl, hrest⟩ := List.cons.inj heq
      exact htail before after hrest

instance decidableStepsOut (fs : FileSystem) :
    (walked segments : List Text) → Decidable (fs.StepsOut walked segments)
  | walked, [] => .isTrue (stepsOut_nil fs walked)
  | walked, s :: rest =>
    have := decidableStepsOut fs (enter true walked s) rest
    decidable_of_iff _ stepsOut_cons.symm

/-- Why a step is not taken. -/
def faultAt (fs : FileSystem) (walked : List Text) (segment : Text) : Option FileFault :=
  match fs.stepFrom walked segment with
  | .ok _ => none
  | .error fault => some fault

lemma faultAt_eq_none_iff {s : Text} :
    fs.faultAt walked s = none
      ↔ fs.node? (placeOf walked) = some .directory ∧ s.utf8Length ≤ maxSegment := by
  unfold faultAt stepFrom
  cases fs.node? (placeOf walked) with
  | none => simp
  | some node =>
    cases node with
    | file content => simp
    | directory =>
      by_cases hlong : maxSegment < s.utf8Length
      · simp [hlong]
      · simp only [if_neg hlong, true_and, true_iff]
        omega

/-- A step that is taken is one of the text. -/
lemma stepFrom_eq_ok {s : Text} (h : fs.faultAt walked s = none) :
    fs.stepFrom walked s = .ok (enter true walked s) := by
  obtain ⟨hdirectory, hshort⟩ := faultAt_eq_none_iff.mp h
  rw [stepFrom, hdirectory]
  exact if_neg (by omega)

lemma stepFrom_eq_error {s : Text} {fault : FileFault} (h : fs.faultAt walked s = some fault) :
    fs.stepFrom walked s = .error fault := by
  unfold faultAt at h
  split at h
  · cases h
  · next hstep => rw [hstep, Option.some.inj h]

/-! ## The way to a place -/

/-- The last segment of a place is its name. -/
lemma isTooLong_placeOf (h : ∀ s ∈ name :: walked, IsSegment s) :
    isTooLong (placeOf (name :: walked)) = decide (maxSegment < name.utf8Length) := by
  obtain ⟨hname, hwalked⟩ := List.forall_mem_cons.mp h
  have hsegments : ∀ s ∈ walked.reverse ++ [name], Text.slash ∉ s := by
    intro s hs
    rw [List.mem_append, List.mem_reverse, List.mem_singleton] at hs
    exact hs.elim (fun hs => (hwalked s hs).2) (fun hs => hs ▸ hname.2)
  have hne : walked.reverse ++ [name] ≠ [] := List.append_ne_nil_of_right_ne_nil _ (by simp)
  have hplace : placeOf (name :: walked) = ofSegments (walked.reverse ++ [name]) := by
    rw [placeOf, List.reverse_cons]
  have hsplit : Text.splitAt Text.slash (placeOf (name :: walked))
      = [] :: (walked.reverse ++ [name]) := by
    rw [hplace, ofSegments, Text.splitAt, if_pos rfl, Text.splitAt_join hne hsegments]
  have hlastSegment : ([] :: (walked.reverse ++ [name])).getLast? = some name := by
    rw [← List.cons_append, List.getLast?_concat]
  have hdrop : dropTrailingSlashes (placeOf (name :: walked)) = placeOf (name :: walked) := by
    obtain ⟨opening, last, hpath, hlast, -, -, hget⟩ := exists_opening (placeOf (name :: walked))
    rw [hsplit, hlastSegment] at hget
    obtain rfl := Option.some.inj hget
    rw [dropTrailingSlashes, hpath, List.reverse_append]
    cases hrev : name.reverse with
    | nil => exact absurd (List.reverse_eq_nil_iff.mp hrev) hname.1
    | cons u rest =>
      have hu : u ≠ Text.slash := by
        rintro rfl
        exact hname.2 (List.mem_reverse.mp (hrev ▸ List.mem_cons_self))
      rw [List.cons_append, List.dropWhile_cons_of_neg (by simpa using hu), ← List.cons_append,
        ← hrev, ← List.reverse_append, List.reverse_reverse]
  rw [isTooLong, baseName, hdrop, hsplit, hlastSegment, Option.getD_some]

/-- The way to what is in a place leads there first, and then one step on. -/
lemma blocked?_cons (h : ∀ s ∈ name :: walked, IsSegment s) :
    fs.blocked? (placeOf (name :: walked))
      = (fs.blocked? (placeOf walked)).or (fs.faultAt walked name) := by
  obtain ⟨hname, hwalked⟩ := List.forall_mem_cons.mp h
  rw [blocked?_eq_or, isTooLong_placeOf h]
  cases walked with
  | nil =>
    have habove : above (placeOf [name]) = [] := by
      have hsegment : ∀ s ∈ [name], IsSegment s := List.forall_mem_singleton.mpr hname
      exact above_ofSegments hsegment
    have hroot : fs.blocked? (placeOf []) = none := rfl
    have hnode : fs.node? (placeOf []) = some .directory := rfl
    rw [habove, hroot, faultAt, stepFrom, hnode]
    by_cases hlong : maxSegment < name.utf8Length <;> simp [hlong]
  | cons last before =>
    have habove : above (placeOf (name :: last :: before))
        = above (placeOf (last :: before)) ++ [placeOf (last :: before)] := by
      have hall : ∀ s ∈ (last :: before).reverse ++ [name], IsSegment s := by
        intro s hs
        rw [List.mem_append, List.mem_reverse, List.mem_singleton] at hs
        exact hs.elim (hwalked s) (fun hs => hs ▸ hname)
      have hplace : placeOf (name :: last :: before)
          = ofSegments ((last :: before).reverse ++ [name]) := by
        rw [placeOf, List.reverse_cons]
      rw [hplace, placeOf, above_append_singleton (by simp) hall]
    rw [habove, List.findSome?_append, List.findSome?_singleton, blocked?_eq_or, Option.or_assoc,
      Option.or_assoc]
    congr 1
    -- Of the directory it is asked first if its name is too long, and then what is there.
    rw [obstacle, faultAt, stepFrom]
    by_cases hlong : isTooLong (placeOf (last :: before))
    · rw [if_pos hlong, if_pos hlong, Option.some_or, Option.some_or]
    · rw [if_neg hlong, if_neg hlong, Option.none_or]
      cases fs.node? (placeOf (last :: before)) with
      | none => rfl
      | some node =>
        cases node with
        | file content => rfl
        | directory => by_cases hname : maxSegment < name.utf8Length <;> simp [hname]

/-- What is there is below directories. -/
lemma Connected.node?_of_append (h : fs.Connected) {further : List Text}
    (hsegments : ∀ s ∈ further ++ walked, IsSegment s)
    (hdirectory : fs.node? (placeOf (further ++ walked)) = some .directory) :
    fs.node? (placeOf walked) = some .directory := by
  induction further with
  | nil => exact hdirectory
  | cons s further ih =>
    rw [List.cons_append] at hsegments hdirectory
    have hopen : fs.blocked? (placeOf (s :: (further ++ walked))) = none := h _ hdirectory
    rw [blocked?_cons hsegments, Option.or_eq_none_iff, faultAt_eq_none_iff] at hopen
    exact ih (fun x hx => hsegments x (List.mem_cons_of_mem s hx)) hopen.2.1

/-! ## Where a path cannot be followed -/

/-- From a place that is no directory, no step leads out of it again. -/
lemma exists_foldl_enter_eq (hconnected : fs.Connected) (hwalked : ∀ s ∈ walked, IsSegment s)
    (hplace : fs.node? (placeOf walked) ≠ some .directory)
    (hslash : ∀ s ∈ rest, Text.slash ∉ s) (hout : fs.StepsOut walked rest) :
    ∃ further, (∀ s ∈ further, IsSegment s)
      ∧ rest.foldl (enter true) walked = further ++ walked := by
  -- The segments that were taken so far are all still there.
  suffices hfrom : ∀ further, (∀ s ∈ further, IsSegment s) →
      fs.StepsOut (further ++ walked) rest → ∃ further', (∀ s ∈ further', IsSegment s)
        ∧ rest.foldl (enter true) (further ++ walked) = further' ++ walked from
    hfrom [] (fun _ hs => nomatch hs) hout
  clear hout
  induction rest with
  | nil => exact fun further hfurther _ => ⟨further, hfurther, rfl⟩
  | cons s rest ih =>
    intro further hfurther hout
    obtain ⟨hs, hrest⟩ := List.forall_mem_cons.mp hslash
    obtain ⟨hfirst, htail⟩ := stepsOut_cons.mp hout
    by_cases hblank : s = [] ∨ s = here
    · rw [enter_of_blank hblank] at htail
      rw [List.foldl_cons, enter_of_blank hblank]
      exact ih hrest further hfurther htail
    · by_cases hup : s = up
      · exact absurd (hconnected.node?_of_append (List.forall_mem_append.mpr ⟨hfurther, hwalked⟩)
          (hfirst hup)) hplace
      · have hname : s ∉ [[], here, up] := by
          simp only [List.mem_cons, List.not_mem_nil, or_false, not_or]
          exact ⟨fun h => hblank (.inl h), fun h => hblank (.inr h), hup⟩
        rw [enter_of_name hname] at htail
        rw [List.foldl_cons, enter_of_name hname]
        exact ih hrest (s :: further)
          (List.forall_mem_cons.mpr ⟨⟨fun h => hblank (.inl h), hs⟩, hfurther⟩) htail

/-- Whatever is behind an obstacle, the obstacle is met first. -/
lemma blocked?_of_append {fault : FileFault} (hwalked : ∀ s ∈ walked, IsSegment s)
    (hfault : ∀ s, IsSegment s → fs.blocked? (placeOf (s :: walked)) = some fault)
    {further : List Text} (hfurther : ∀ s ∈ name :: further, IsSegment s) :
    fs.blocked? (placeOf (name :: (further ++ walked))) = some fault := by
  induction further generalizing name with
  | nil => exact hfault name (hfurther name List.mem_cons_self)
  | cons s further ih =>
    have hall : ∀ x ∈ name :: (s :: further ++ walked), IsSegment x :=
      List.forall_mem_append.mpr ⟨hfurther, hwalked⟩
    rw [blocked?_cons hall]
    have hfirst := ih fun x hx => hfurther x (List.mem_cons_of_mem name hx)
    rw [List.cons_append, hfirst, Option.some_or]

/-- Where there is no directory, no step is taken, whatever the segment is. -/
lemma faultAt_eq_faultAt {s x : Text} (hplace : fs.node? (placeOf walked) ≠ some .directory) :
    fs.faultAt walked s = fs.faultAt walked x := by
  unfold faultAt stepFrom
  cases hnode : fs.node? (placeOf walked) with
  | none => rfl
  | some node =>
    cases node with
    | file content => rfl
    | directory => exact absurd hnode hplace

/-- A step that is not taken is met on the way of the text too, if a name comes behind it. -/
lemma blocked?_of_faultAt {s : Text} {fault : FileFault} (hconnected : fs.Connected)
    (hwalked : ∀ x ∈ walked, IsSegment x) (hopen : fs.blocked? (placeOf walked) = none)
    (hslash : ∀ x ∈ s :: rest, Text.slash ∉ x) (hname : IsSegment name)
    (hout : fs.StepsOut walked (s :: rest)) (hfault : fs.faultAt walked s = some fault) :
    fs.blocked? (placeOf (name :: (s :: rest).foldl (enter true) walked)) = some fault := by
  obtain ⟨hs, hrest⟩ := List.forall_mem_cons.mp hslash
  obtain ⟨hfirst, htail⟩ := stepsOut_cons.mp hout
  have hstep : ∀ x ∈ enter true walked s, IsSegment x := isSegment_of_mem_enter hs hwalked
  -- Behind the step there is no directory, and from there the fault is met wherever one goes.
  obtain ⟨hplace, hmet⟩ : fs.node? (placeOf (enter true walked s)) ≠ some .directory
      ∧ ∀ x, IsSegment x → fs.blocked? (placeOf (x :: enter true walked s)) = some fault := by
    have hnotDirectory : s.utf8Length ≤ maxSegment →
        fs.node? (placeOf walked) ≠ some .directory := by
      intro hshort hdirectory
      rw [faultAt_eq_none_iff.mpr ⟨hdirectory, hshort⟩] at hfault
      cases hfault
    by_cases hblank : s = [] ∨ s = here
    · have hplace : fs.node? (placeOf walked) ≠ some .directory :=
        hnotDirectory (by rcases hblank with rfl | rfl <;> decide)
      rw [enter_of_blank hblank] at hstep ⊢
      refine ⟨hplace, fun x hx => ?_⟩
      rw [blocked?_cons (List.forall_mem_cons.mpr ⟨hx, hwalked⟩), hopen, Option.none_or,
        faultAt_eq_faultAt hplace, hfault]
    · by_cases hup : s = up
      · exact absurd (hfirst hup) (hnotDirectory (by rw [hup]; decide))
      · have hname : s ∉ [[], here, up] := by
          simp only [List.mem_cons, List.not_mem_nil, or_false, not_or]
          exact ⟨fun h => hblank (.inl h), fun h => hblank (.inr h), hup⟩
        rw [enter_of_name hname] at hstep ⊢
        have hblocked : fs.blocked? (placeOf (s :: walked)) = some fault := by
          rw [blocked?_cons hstep, hopen, hfault, Option.none_or]
        refine ⟨fun hdirectory => ?_, fun x hx => ?_⟩
        · rw [hconnected _ hdirectory] at hblocked
          cases hblocked
        · rw [blocked?_cons (List.forall_mem_cons.mpr ⟨hx, hstep⟩), hblocked, Option.some_or]
  obtain ⟨further, hfurther, hfold⟩ :=
    exists_foldl_enter_eq hconnected hstep hplace hrest htail
  rw [List.foldl_cons, hfold]
  exact blocked?_of_append hstep hmet (List.forall_mem_cons.mpr ⟨hname, hfurther⟩)

/-- A step that is taken leads where the way is open. -/
lemma blocked?_enter_eq_none {s : Text} (hwalked : ∀ x ∈ walked, IsSegment x)
    (hopen : fs.blocked? (placeOf walked) = none) (hslash : Text.slash ∉ s)
    (h : fs.faultAt walked s = none) : fs.blocked? (placeOf (enter true walked s)) = none := by
  have hdown : s ≠ [] → fs.blocked? (placeOf (s :: walked)) = none := by
    intro hne
    rw [blocked?_cons (List.forall_mem_cons.mpr ⟨⟨hne, hslash⟩, hwalked⟩), hopen, h, Option.none_or]
  unfold enter
  split
  · exact hopen
  · next hblank =>
    split
    · next hup =>
      split
      · rfl
      · next last before =>
        split
        · exact hup ▸ hdown fun hempty => hblank (.inl hempty)
        · rw [blocked?_cons hwalked, Option.or_eq_none_iff] at hopen
          exact hopen.1
    · exact hdown fun hempty => hblank (.inl hempty)

/-- Segments are followed to where the text leads, up to the first obstacle on the way there. -/
theorem follow_eq (hconnected : fs.Connected) (hwalked : ∀ s ∈ walked, IsSegment s)
    (hopen : fs.blocked? (placeOf walked) = none) (hslash : ∀ s ∈ rest, Text.slash ∉ s)
    (hname : IsSegment name) (hout : fs.StepsOut walked rest) :
    fs.follow walked (rest ++ [name])
      = match fs.blocked? (placeOf (name :: rest.foldl (enter true) walked)) with
        | none => .ok (enter true (rest.foldl (enter true) walked) name)
        | some fault => .error fault := by
  induction rest generalizing walked with
  | nil =>
    have hfollow : fs.follow walked ([] ++ [name]) = fs.stepFrom walked name := by
      rw [follow, List.nil_append, List.foldlM_cons]
      cases fs.stepFrom walked name <;> rfl
    rw [hfollow, List.foldl_nil, blocked?_cons (List.forall_mem_cons.mpr ⟨hname, hwalked⟩), hopen,
      Option.none_or]
    cases hfault : fs.faultAt walked name with
    | none => exact stepFrom_eq_ok hfault
    | some fault => exact stepFrom_eq_error hfault
  | cons s rest ih =>
    obtain ⟨hs, hrest⟩ := List.forall_mem_cons.mp hslash
    have hfollow : fs.follow walked (s :: rest ++ [name])
        = (fs.stepFrom walked s).bind fun next => fs.follow next (rest ++ [name]) := by
      rw [List.cons_append, follow, List.foldlM_cons]
      rfl
    rw [hfollow]
    cases hfault : fs.faultAt walked s with
    | none =>
      rw [stepFrom_eq_ok hfault, List.foldl_cons]
      exact ih (isSegment_of_mem_enter hs hwalked)
        (blocked?_enter_eq_none hwalked hopen hs hfault) hrest (stepsOut_cons.mp hout).2
    | some fault =>
      rw [stepFrom_eq_error hfault,
        blocked?_of_faultAt hconnected hwalked hopen hslash hname hout hfault]
      rfl

lemma follow_append (fs : FileSystem) (walked segments more : List Text) :
    fs.follow walked (segments ++ more)
      = (fs.follow walked segments).bind fun next => fs.follow next more := by
  rw [follow, List.foldlM_append]
  rfl

/-- Slashes at the end of a path ask for a directory. -/
lemma follow_blanks (fs : FileSystem) (walked : List Text) (slashes : ℕ) :
    fs.follow walked (List.replicate slashes [])
      = if 0 < slashes then fs.stepFrom walked [] else .ok walked := by
  induction slashes with
  | zero => rfl
  | succ n ih =>
    rw [if_pos n.succ_pos, List.replicate_succ, follow, List.foldlM_cons]
    cases hfault : fs.faultAt walked [] with
    | none =>
      have hstep : fs.stepFrom walked [] = .ok walked := stepFrom_eq_ok hfault
      rw [hstep] at ih ⊢
      exact ih.trans (ite_self _)
    | some fault =>
      rw [stepFrom_eq_error hfault]
      rfl

end FileSystem

namespace Workspace

variable {w : Workspace} {path : Text}

/-- Each `..` of a path leads out of a directory that is there. -/
def StepsOut (w : Workspace) (path : Text) : Prop :=
  w.files.StepsOut (start w.directory path) (Text.splitAt Text.slash path)

instance (w : Workspace) (path : Text) : Decidable (w.StepsOut path) :=
  FileSystem.decidableStepsOut _ _ _

/-- The content of a file that is found by following a path from directory to directory. -/
def readFollowing (w : Workspace) (path : Text) : Except Failure Text :=
  let fail (fault : FileFault) := .error (fault.failure (FileFault.onPath "open" path))
  match FileSystem.refused? "path" path,
    w.files.follow (start w.directory path) (Text.splitAt Text.slash path) with
  | some f, _ => .error f
  | none, .error fault => fail fault
  | none, .ok walked =>
    match w.files.node? (FileSystem.placeOf walked) with
    | some (.file content) => .ok content
    | some .directory => .error (FileFault.isDirectory.failure (Text.ofString "read"))
    | none => fail .missing

/-- The way to where a path starts is open. -/
lemma blocked?_start (hconnected : w.files.Connected) (hdirectory : w.node? here = some .directory)
    (path : Text) : w.files.blocked? (FileSystem.placeOf (start w.directory path)) = none := by
  unfold start
  split
  · rfl
  · have hplace : w.absolute here = FileSystem.placeOf (walk w.directory []) := by
      have hstart : start w.directory here = walk w.directory [] :=
        if_neg (by decide)
      rw [absolute, resolve_eq, hstart, walk_of_notMem (by decide), enter_of_blank (.inr rfl)]
      rfl
    rw [node?, hplace] at hdirectory
    exact hconnected _ hdirectory

/-- A path that ends in a name is read as it is found by following it, if each `..` leads out of a
directory that is there. -/
theorem read_eq_readFollowing (hconnected : w.files.Connected)
    (hdirectory : w.node? here = some .directory) (hname : baseName path ∉ [[], here, up])
    (hout : w.StepsOut path) : w.read path = w.readFollowing path := by
  have hne : baseName path ≠ [] := fun hempty => hname (hempty ▸ List.mem_cons_self)
  obtain ⟨rest, slashes, hsplit, htrailing⟩ := exists_splitAt_eq hne
  have hslash : ∀ s ∈ rest ++ [baseName path], Text.slash ∉ s := by
    intro s hs
    apply Text.notMem_of_mem_splitAt (t := path)
    rw [hsplit, List.append_cons]
    exact List.mem_append_left _ hs
  obtain ⟨hrest, hlast⟩ := List.forall_mem_append.mp hslash
  have hlast := List.forall_mem_singleton.mp hlast
  have hfinal : enter true (rest.foldl (enter true) (start w.directory path)) (baseName path)
      = baseName path :: rest.foldl (enter true) (start w.directory path) := enter_of_name hname _
  have hplace : w.absolute path
      = FileSystem.placeOf (baseName path :: rest.foldl (enter true) (start w.directory path)) := by
    rw [absolute, resolve_eq, walk, hsplit, List.foldl_append, List.foldl_cons, hfinal,
      foldl_enter_blanks]
    rfl
  have hfollow := FileSystem.follow_eq hconnected (isSegment_of_mem_start w.directory path)
    (blocked?_start hconnected hdirectory path) hrest ⟨hne, hlast⟩ (fun before after h =>
      hout before (after ++ baseName path :: List.replicate slashes []) (by
        rw [hsplit, h, List.append_assoc, List.cons_append]))
  rw [hfinal] at hfollow
  rw [read, readFollowing, hplace, hsplit, List.append_cons, FileSystem.follow_append, hfollow,
    FileSystem.read, htrailing]
  generalize baseName path :: rest.foldl (enter true) (start w.directory path) = place
  cases FileSystem.refused? "path" path with
  | some f => rfl
  | none =>
    cases w.files.blocked? (FileSystem.placeOf place) with
    | some fault => rfl
    | none =>
      simp only [Except.bind, FileSystem.follow_blanks]
      -- Slashes at the end make a difference for a file alone.
      cases hnode : w.files.node? (FileSystem.placeOf place) with
      | none => by_cases hslashes : 0 < slashes <;> simp [FileSystem.stepFrom, hnode, hslashes]
      | some node =>
        cases node with
        | file content =>
          by_cases hslashes : 0 < slashes <;> simp [FileSystem.stepFrom, hnode, hslashes]
        | directory =>
          have hstep : w.files.stepFrom place [] = .ok place :=
            FileSystem.stepFrom_eq_ok (FileSystem.faultAt_eq_none_iff.mpr ⟨hnode, by decide⟩)
          simp only [hstep, ite_self, hnode]

/-- Where no directory goes away, a path is read as it is read by following it afterwards too. -/
lemma read_eq_readFollowing_of_grows {w' : Workspace} (hgrows : FileSystem.Grows w.files w'.files)
    (hsame : w'.directory = w.directory) (hconnected : w.files.Connected)
    (hdirectory : w.node? here = some .directory) (hname : baseName path ∉ [[], here, up])
    (hout : w.StepsOut path) : w'.read path = w'.readFollowing path := by
  apply read_eq_readFollowing (hgrows.connected hconnected) _ hname
  · intro before after hsplit
    rw [hsame]
    exact hgrows.directory _ (hout before after hsplit)
  · rw [node?, absolute, hsame]
    exact hgrows.directory _ hdirectory

end Workspace

end CallAtlas
