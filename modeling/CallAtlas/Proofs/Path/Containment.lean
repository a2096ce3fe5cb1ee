import CallAtlas.Proofs.Path.Canonical

/-!
# Paths inside a root

A path that is resolved inside a root leads to the root or below it, whatever its separators are: a
path that climbs out when it is resolved is refused, though it may look harmless when its
backslashes are read as slashes. A path without backslashes is refused only for what its normal form
shows: it is absolute, or a step up is left at its beginning.
-/

namespace CallAtlas

namespace Path

/-! ## The segments of a path -/

/-- The segments of a path, without the empty ones at slashes. -/
def segmentsOf (p : Text) : List Text := (Text.splitAt Text.slash p).filter fun s => s ≠ []

lemma segmentsOf_ofSegments {segments : List Text} (h : ∀ s ∈ segments, IsSegment s) :
    segmentsOf (ofSegments segments) = segments :=
  filter_splitAt_ofSegments h

lemma segmentsOf_append_cons (a b : Text) :
    segmentsOf (a ++ Text.slash :: b) = segmentsOf a ++ segmentsOf b := by
  rw [segmentsOf, Text.splitAt_append_cons, List.filter_append]
  rfl

lemma segmentsOf_append_slash (a : Text) : segmentsOf (a ++ [Text.slash]) = segmentsOf a := by
  rw [segmentsOf_append_cons]
  exact List.append_nil (segmentsOf a)

/-- A path that begins with another one and a slash has its segments first. -/
lemma segmentsOf_prefix_of_slash {base target : Text} (h : base ++ [Text.slash] <+: target) :
    segmentsOf base <+: segmentsOf target := by
  obtain ⟨rest, rfl⟩ := h
  rw [List.append_assoc, List.singleton_append, segmentsOf_append_cons]
  exact List.prefix_append _ _

/-! ## Steps up -/

variable {absolute : Bool} {segments walked : List Text}

/-- Steps up that are left stand at the beginning of a path that is not absolute. -/
lemma IsResolved.up_mem_iff (h : IsResolved absolute segments.reverse) :
    up ∈ segments ↔ absolute = false ∧ segments.head? = some up := by
  obtain ⟨steps, names, hself, hsteps, hnames⟩ := h.exists_eq
  constructor
  · intro hup
    have hpositive : steps ≠ 0 := by
      rintro rfl
      rw [hself, List.replicate_zero, List.nil_append] at hup
      exact hnames up hup (by decide)
    obtain ⟨more, rfl⟩ := Nat.exists_eq_succ_of_ne_zero hpositive
    refine ⟨Bool.eq_false_iff.mpr fun habsolute => hpositive (hsteps habsolute), ?_⟩
    rw [hself]
    rfl
  · rintro ⟨-, hhead⟩
    exact List.mem_of_head? hhead

/-- A step up is a piece of a path that leads out of its directory. -/
lemma mem_splitAt_of_traverses {p : Text} (h : traverses p = true) :
    up ∈ Text.splitAt Text.slash (normalize p) := by
  unfold traverses at h
  simp only [Bool.or_eq_true, beq_iff_eq, List.isPrefixOf_iff_prefix, List.isSuffixOf_iff_suffix]
    at h
  -- Each test finds the step between slashes or the ends, where the path is cut.
  rcases h with ((hself | hprefix) | hcontains) | hsuffix
  · rw [hself]
    decide
  · obtain ⟨rest, hrest⟩ := hprefix
    rw [← hrest, List.append_assoc, List.singleton_append, Text.splitAt_append_cons]
    exact List.mem_append_left _ (by decide)
  · obtain ⟨before, after, hparts⟩ := Text.exists_append_of_contains hcontains
    have hnormal : normalize p = before ++ Text.slash :: (up ++ Text.slash :: after) := hparts
    rw [hnormal, Text.splitAt_append_cons, Text.splitAt_append_cons]
    exact List.mem_append_right _ (List.mem_append_left _ (by decide))
  · obtain ⟨before, hbefore⟩ := hsuffix
    rw [← hbefore, Text.splitAt_append_cons]
    exact List.mem_append_right _ (by decide)

lemma traverses_of_head? {p : Text}
    (h : (Text.splitAt Text.slash (normalize p)).head? = some up) : traverses p = true := by
  obtain ⟨pieces, hpieces⟩ := List.head?_eq_some_iff.mp h
  have hself := Text.join_splitAt Text.slash (normalize p)
  unfold traverses
  simp only [Bool.or_eq_true, beq_iff_eq, List.isPrefixOf_iff_prefix]
  -- The path is its pieces joined: the step alone, or the step and a slash.
  left; left
  by_cases hnil : pieces = []
  · rw [hpieces, hnil] at hself
    exact .inl hself.symm
  · rw [hpieces, Text.join_cons _ _ hnil] at hself
    exact .inr ⟨_, hself⟩

lemma head?_splitAt_spell (hne : segments ≠ []) (h : IsResolved absolute segments.reverse)
    (trailing : Bool) :
    (Text.splitAt Text.slash (spell absolute trailing segments)).head? = some up
      ↔ up ∈ segments := by
  rw [h.up_mem_iff, splitAt_spell hne fun s hs => h.isSegment_of_mem hs]
  cases absolute with
  | true => simp
  | false => simp [List.head?_append_of_ne_nil _ hne]

/-- A path leads out of the directory that it starts from if a step up is left of it. -/
lemma traverses_iff (p : Text) : traverses p = true ↔ up ∈ normalSegments (toForward p) := by
  by_cases hnil : normalSegments (toForward p) = []
  · rw [hnil]
    refine ⟨fun h => ?_, fun hup => nomatch hup⟩
    have hend : ∀ n ∈ [([] : Text), here, [Text.slash]], up ∉ Text.splitAt Text.slash n := by decide
    exact absurd (mem_splitAt_of_traverses h) (hend _ (normalize_of_eq_nil hnil).1)
  · have hresolved := isResolved_normalSegments (toForward p)
    constructor
    · intro h
      have hup := mem_splitAt_of_traverses h
      rw [normalize_of_ne_nil hnil,
        splitAt_spell hnil fun s hs => isSegment_of_mem_normalSegments hs] at hup
      -- The pieces at the ends are empty.
      have hempty : ∀ slash : Bool, up ∉ if slash then [([] : Text)] else [] := by decide
      rcases List.mem_append.mp hup with hroot | hup
      · exact absurd hroot (hempty _)
      · exact (List.mem_append.mp hup).resolve_right (hempty _)
    · intro hup
      apply traverses_of_head?
      rw [normalize_of_ne_nil hnil]
      exact (head?_splitAt_spell hnil hresolved _).mpr hup

lemma head?_splitAt_posixNormal (p : Text) :
    (Text.splitAt Text.slash (posixNormal p)).head? = some up ↔ up ∈ normalSegments p := by
  by_cases hnil : normalSegments p = []
  · rw [posixNormal_of_eq_nil hnil, hnil]
    cases isAbsolute p <;> cases hasTrailingSlash p <;> decide
  · rw [posixNormal_of_ne_nil hnil]
    exact head?_splitAt_spell hnil (isResolved_normalSegments p) _

/-! ## Where paths lead -/

lemma IsResolved.isName (h : IsResolved true walked) :
    ∀ s ∈ walked, s ∉ [[], here, up] ∧ Text.slash ∉ s := by
  obtain ⟨names, steps, rfl, hnames, hsteps⟩ := h
  rw [hsteps rfl, List.replicate_zero, List.append_nil]
  exact hnames

/-- An absolute path is spelled from names alone. -/
lemma exists_resolve_eq (base p : Text) :
    ∃ segments, IsResolved true segments.reverse ∧ resolve base p = ofSegments segments := by
  have hstart : IsResolved true (start base p) := by
    unfold start
    split
    · exact isResolved_nil true
    · exact (isResolved_nil true).walk base
  refine ⟨_, ?_, resolve_eq base p⟩
  rw [List.reverse_reverse]
  exact hstart.walk p

lemma walk_ofSegments (h : IsResolved true segments.reverse) :
    walk (ofSegments segments) [] = segments.reverse := by
  by_cases hnil : segments = []
  · rw [hnil]
    rfl
  · have hspell : ofSegments segments = spell true false segments := by
      rw [spell, if_pos rfl, if_neg Bool.false_ne_true, List.append_nil]
      rfl
    rw [hspell, walk, foldl_enter_splitAt_spell hnil fun s hs => h.isSegment_of_mem hs]
    exact h.foldl_enter

/-- A path that is not absolute and has no step up left leads below where it starts. -/
lemma resolve_ofSegments (h : IsResolved true segments.reverse) {p : Text}
    (hrelative : isAbsolute p = false) (hup : up ∉ normalSegments p) :
    resolve (ofSegments segments) p = ofSegments (segments ++ normalSegments p) := by
  have hnames : ∀ s ∈ normalSegments p, s ∉ [[], here, up] := by
    intro s hs
    obtain ⟨⟨hempty, -⟩, hhere⟩ :=
      (isResolved_normalSegments p).isSegment s (List.mem_reverse.mpr hs)
    simp only [List.mem_cons, List.not_mem_nil, or_false, not_or]
    exact ⟨hempty, hhere, fun heq => hup (heq ▸ hs)⟩
  have hwalk : (normalSegments p).foldl (enter true) segments.reverse = walk p segments.reverse :=
    foldl_resolvedSegments p fun habsolute => absurd habsolute (hrelative ▸ Bool.false_ne_true)
  have hstart : start (ofSegments segments) p = segments.reverse := by
    rw [start, hrelative, if_neg Bool.false_ne_true, walk_ofSegments h]
  rw [resolve_eq, hstart, ← hwalk, foldl_enter_names hnames, List.reverse_append,
    List.reverse_reverse, List.reverse_reverse]

/-! ## Inside a root -/

/-- What paths below a directory begin with. -/
def opening (base : Text) : Text :=
  if hasTrailingSlash base then base else base ++ [Text.slash]

/-- Is a path a directory, or does it begin with what paths below the directory begin with? -/
def IsBelow (base target : Text) : Prop := target = base ∨ opening base <+: target

lemma not_isBelow_iff (base target : Text) :
    ¬IsBelow base target ↔ (target != base && !(opening base).isPrefixOf target) = true := by
  rw [IsBelow, not_or, ← List.isPrefixOf_iff_prefix]
  simp only [Bool.and_eq_true, bne_iff_ne, ne_eq, Bool.not_eq_true, Bool.not_eq_true']

lemma IsBelow.segmentsOf_prefix_segmentsOf {base target : Text} (h : IsBelow base target) :
    segmentsOf base <+: segmentsOf target := by
  rcases h with rfl | h
  · exact List.prefix_rfl
  · unfold opening at h
    split at h
    · next htrailing =>
      -- The directory ends in a slash itself.
      obtain ⟨front, rfl⟩ := List.getLast?_eq_some_iff.mp (beq_iff_eq.mp htrailing)
      rw [segmentsOf_append_slash]
      exact segmentsOf_prefix_of_slash h
    · exact segmentsOf_prefix_of_slash h

lemma isBelow_ofSegments (segments more : List Text) :
    IsBelow (ofSegments segments) (ofSegments (segments ++ more)) := by
  by_cases hmore : more = []
  · left
    rw [hmore, List.append_nil]
  right
  by_cases hnil : segments = []
  · -- Every absolute path begins with the slash that is the root.
    rw [hnil]
    exact ⟨_, rfl⟩
  · have hparts : ofSegments (segments ++ more)
        = ofSegments segments ++ [Text.slash] ++ Text.join [Text.slash] more :=
      congrArg (Text.slash :: ·) (Text.join_append [Text.slash] hnil hmore)
    rw [hparts]
    unfold opening
    split
    · rw [List.append_assoc]
      exact List.prefix_append _ _
    · exact List.prefix_append _ _

/-- A path is refused for a step up that its normal form begins with, for being absolute, or for
what it resolves to. -/
lemma resolveWithin_cases (directory root p : Text) :
    resolveWithin directory root p = .error (.escapesRoot p)
        ∧ (up ∈ normalSegments (toForward p) ∨ isAbsolute p = true
          ∨ ¬IsBelow (resolve directory root) (resolve (resolve directory root) p))
      ∨ resolveWithin directory root p = .ok (resolve (resolve directory root) p)
        ∧ up ∉ normalSegments (toForward p) ∧ isAbsolute p = false
        ∧ IsBelow (resolve directory root) (resolve (resolve directory root) p) := by
  unfold resolveWithin
  by_cases hlooks : (traverses p || isAbsolute p) = true
  · rw [if_pos hlooks]
    rw [Bool.or_eq_true, traverses_iff] at hlooks
    exact .inl ⟨rfl, hlooks.imp_right .inl⟩
  · rw [if_neg hlooks]
    rw [Bool.or_eq_true, traverses_iff, not_or, Bool.not_eq_true] at hlooks
    by_cases hbelow : IsBelow (resolve directory root) (resolve (resolve directory root) p)
    · exact .inr ⟨if_neg ((not_isBelow_iff _ _).not.mp (not_not.mpr hbelow)), hlooks.1, hlooks.2,
        hbelow⟩
    · exact .inl ⟨if_pos ((not_isBelow_iff _ _).mp hbelow), .inr (.inr hbelow)⟩

/-- What resolving a path inside a root promises of the path that it leads to. -/
structure IsInside (base target : Text) : Prop where
  isAbsolute : isAbsolute target = true
  no_steps : ∀ s ∈ Text.splitAt Text.slash target, s ∉ [here, up]
  extends_base : segmentsOf base <+: segmentsOf target

lemma isInside_resolve {base p : Text} (h : IsBelow base (resolve base p)) :
    IsInside base (resolve base p) := by
  obtain ⟨segments, hsegments, heq⟩ := exists_resolve_eq base p
  refine ⟨rfl, fun s hs => ?_, h.segmentsOf_prefix_segmentsOf⟩
  by_cases hempty : s = []
  · rw [hempty]
    decide
  · -- What is not empty is one of the segments that the path is spelled from, all of them names.
    have hmem : s ∈ segmentsOf (ofSegments segments) :=
      List.mem_filter.mpr ⟨heq ▸ hs, by simpa using hempty⟩
    rw [segmentsOf_ofSegments fun s hs => hsegments.isSegment_of_mem hs] at hmem
    exact fun hstep => (hsegments.isName s (List.mem_reverse.mpr hmem)).1
      (List.mem_cons_of_mem _ hstep)

/-- A path that is resolved inside a root is refused, or it leads to an absolute path without `.`
and `..` whose segments extend those of the root. One without backslashes is refused exactly if it
is absolute or its normal form begins with `..`. -/
theorem resolveWithin_confined (directory root p : Text) :
    (resolveWithin directory root p = .error (.escapesRoot p)
        ∨ ∃ target, resolveWithin directory root p = .ok target
          ∧ target = resolve (resolve directory root) p
          ∧ IsInside (resolve directory root) target)
      ∧ (Text.backslash ∉ p → ((∃ target, resolveWithin directory root p = .ok target)
        ↔ isAbsolute p = false
          ∧ (Text.splitAt Text.slash (posixNormal p)).head? ≠ some up)) := by
  have hcases := resolveWithin_cases directory root p
  refine ⟨?_, fun hforward => ?_⟩
  · rcases hcases with ⟨herror, -⟩ | ⟨hok, -, -, hbelow⟩
    · exact .inl herror
    · exact .inr ⟨_, hok, rfl, isInside_resolve hbelow⟩
  · rw [toForward_of_notMem hforward] at hcases
    rw [ne_eq, head?_splitAt_posixNormal]
    constructor
    · rintro ⟨target, htarget⟩
      rcases hcases with ⟨herror, -⟩ | ⟨-, hup, hrelative, -⟩
      · rw [herror] at htarget
        cases htarget
      · exact ⟨hrelative, hup⟩
    · rintro ⟨hrelative, hup⟩
      rcases hcases with ⟨-, hup' | habsolute | hbelow⟩ | ⟨hok, -⟩
      · exact absurd hup' hup
      · exact absurd habsolute (hrelative ▸ Bool.false_ne_true)
      · -- Names alone are added to the root.
        obtain ⟨segments, hsegments, hroot⟩ := exists_resolve_eq directory root
        rw [hroot, resolve_ofSegments hsegments hrelative hup] at hbelow
        exact absurd (isBelow_ofSegments segments _) hbelow
      · exact ⟨_, hok⟩

/-- A name that is taken back, and a path that steps up behind a name with a backslash. -/
theorem resolveWithin_confined_repository :
    Text.backslash ∉ Text.ofString "a//../b"
      ∧ (∃ target, resolveWithin (Text.ofString "/srv") (Text.ofString "x/../repo")
        (Text.ofString "a//../b") = .ok target)
      ∧ resolveWithin (Text.ofString "/srv") (Text.ofString "repo") (Text.ofString "a\\b/../..")
        = .error (.escapesRoot (Text.ofString "a\\b/../..")) := by
  have hforward : Text.backslash ∉ Text.ofString "a//../b" := by decide
  refine ⟨hforward, ?_, by decide⟩
  exact ((resolveWithin_confined _ _ _).2 hforward).mpr ⟨by decide, by decide⟩

end Path

end CallAtlas
