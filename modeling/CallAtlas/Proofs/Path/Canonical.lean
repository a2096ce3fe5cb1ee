import CallAtlas.Proofs.Path.Resolved

/-!
# Canonical paths

The normal form of a path is spelled from the segments that resolving the path leaves: names, and
before them steps up if the path is relative. So it is in canonical form, it leads where the path
leads, with backslashes read as slashes, and taking the normal form again changes nothing.
-/

namespace CallAtlas

namespace Path

/-! ## Segments and units -/

/-- Taking a segment adds that segment or one that leads up. -/
lemma mem_enter {absolute : Bool} {walked : List Text} {segment s : Text}
    (h : s ∈ enter absolute walked segment) : s ∈ walked ∨ s = segment ∨ s = up := by
  unfold enter at h
  split at h
  · exact .inl h
  · split at h
    · split at h
      · split at h
        · cases h
        · exact .inr (.inr (List.mem_singleton.mp h))
      · split at h
        · rcases List.mem_cons.mp h with hup | hwalked
          · exact .inr (.inr hup)
          · exact .inl hwalked
        · exact .inl (List.mem_cons_of_mem _ h)
    · rcases List.mem_cons.mp h with hsegment | hwalked
      · exact .inr (.inl hsegment)
      · exact .inl hwalked

/-- Resolving segments adds none but those that lead up. -/
lemma mem_resolvedSegments {absolute : Bool} {segments : List Text} {s : Text}
    (h : s ∈ resolvedSegments absolute segments) : s ∈ segments ∨ s = up := by
  have hleft : ∀ x ∈ segments.foldl (enter absolute) [], x ∈ segments ∨ x = up := by
    refine List.foldlRecOn (motive := fun walked => ∀ x ∈ walked, x ∈ segments ∨ x = up) _ _
      (fun x hx => nomatch hx) fun walked hwalked segment hsegment x hx => ?_
    rcases mem_enter hx with hx | rfl | hup
    · exact hwalked x hx
    · exact .inl hsegment
    · exact .inr hup
  exact hleft s (List.mem_reverse.mp h)

/-- Resolving a path adds slashes and dots alone. -/
lemma mem_posixNormal {p : Text} {u : CodeUnit} (h : u ∈ posixNormal p) :
    u ∈ p ∨ u = Text.slash ∨ u = Text.dot := by
  have hbody : u ∈ Text.join [Text.slash]
      (resolvedSegments (isAbsolute p) (Text.splitAt Text.slash p)) →
      u ∈ p ∨ u = Text.slash ∨ u = Text.dot := by
    intro hu
    rcases Text.mem_join hu with hslash | ⟨segment, hsegment, hu⟩
    · exact .inr (.inl (List.mem_singleton.mp hslash))
    · rcases mem_resolvedSegments hsegment with hpiece | rfl
      · exact .inl (Text.mem_of_mem_splitAt hpiece hu)
      · simp only [up, List.mem_cons, List.not_mem_nil, or_false, or_self] at hu
        exact .inr (.inr hu)
  unfold posixNormal at h
  simp only at h
  split at h
  · split at h
    · exact .inr (.inl (List.mem_singleton.mp h))
    · split at h
      · simp only [List.mem_cons, List.not_mem_nil, or_false] at h
        exact .inr h.symm
      · exact .inr (.inr (List.mem_singleton.mp h))
  · rw [List.mem_append, List.mem_append] at h
    rcases h with (hroot | hu) | hend
    · split at hroot
      · exact .inr (.inl (List.mem_singleton.mp hroot))
      · cases hroot
    · exact hbody hu
    · split at hend
      · exact .inr (.inl (List.mem_singleton.mp hend))
      · cases hend

lemma backslash_notMem_toForward (p : Text) : Text.backslash ∉ toForward p := by
  intro h
  obtain ⟨u, -, hu⟩ := List.mem_map.mp h
  split at hu
  · exact absurd hu (by decide)
  · next hne => exact hne hu

lemma toForward_of_notMem {p : Text} (h : Text.backslash ∉ p) : toForward p = p := by
  refine (List.map_congr_left fun u hu => ?_).trans (List.map_id p)
  apply if_neg
  rintro rfl
  exact h hu

/-- The normal form of a path adds slashes and dots to the path with forward slashes alone. -/
lemma mem_toForward_of_mem_normalize {p : Text} {u : CodeUnit} (h : u ∈ normalize p) :
    u ∈ toForward p ∨ u = Text.slash ∨ u = Text.dot := by
  unfold normalize at h
  simp only at h
  split at h
  · cases h
  · split at h
    · exact mem_posixNormal (List.mem_of_mem_drop h)
    · exact mem_posixNormal h

/-- The normal form of a path adds slashes and dots alone. -/
theorem mem_normalize {p : Text} {u : CodeUnit} (h : u ∈ normalize p) :
    u ∈ p ∨ u = Text.slash ∨ u = Text.dot := by
  rcases mem_toForward_of_mem_normalize h with hforward | hadded
  · obtain ⟨v, hv, rfl⟩ := List.mem_map.mp hforward
    split
    · exact .inr (.inl rfl)
    · exact .inl hv
  · exact .inr hadded

lemma backslash_notMem_normalize (p : Text) : Text.backslash ∉ normalize p := by
  intro h
  rcases mem_toForward_of_mem_normalize h with hforward | hslash | hdot
  · exact backslash_notMem_toForward p hforward
  · exact absurd hslash (by decide)
  · exact absurd hdot (by decide)

/-- A path without a unit that is zero has a normal form without one. -/
lemma zero_notMem_normalize {p : Text} (h : (0 : CodeUnit) ∉ p) :
    (0 : CodeUnit) ∉ normalize p := by
  intro hzero
  rcases mem_normalize hzero with hp | hslash | hdot
  · exact h hp
  · exact absurd hslash (by decide)
  · exact absurd hdot (by decide)

/-! ## Resolved segments -/

/-- The segments that resolving a path leaves, the last one first: names, and below them steps up if
the path is relative. -/
def IsResolved (absolute : Bool) (walked : List Text) : Prop :=
  ∃ names steps, walked = names ++ List.replicate steps up
    ∧ (∀ s ∈ names, s ∉ [[], here, up] ∧ Text.slash ∉ s) ∧ (absolute = true → steps = 0)

variable {absolute : Bool} {walked : List Text}

lemma isResolved_nil (absolute : Bool) : IsResolved absolute [] :=
  ⟨[], 0, rfl, fun _ hs => absurd hs List.not_mem_nil, fun _ => rfl⟩

/-- A step leads from segments that are resolved to such. -/
lemma IsResolved.enter (h : IsResolved absolute walked) {s : Text} (hs : Text.slash ∉ s) :
    IsResolved absolute (enter absolute walked s) := by
  obtain ⟨names, steps, rfl, hnames, hsteps⟩ := h
  unfold Path.enter
  split
  · exact ⟨names, steps, rfl, hnames, hsteps⟩
  · next hstep =>
    split
    · cases names with
      | nil =>
        -- There are no names left to be taken back.
        rw [List.nil_append]
        cases steps with
        | zero =>
          cases absolute with
          | true => exact isResolved_nil true
          | false => exact ⟨[], 1, rfl, hnames, fun h => nomatch h⟩
        | succ steps =>
          refine ⟨[], steps + 2, ?_, hnames, fun h => nomatch hsteps h⟩
          rw [List.replicate_succ]
          exact if_pos rfl
      | cons name names =>
        obtain ⟨hname, hnames⟩ := List.forall_mem_cons.mp hnames
        refine ⟨names, steps, ?_, hnames, hsteps⟩
        simp only [List.mem_cons, List.not_mem_nil, or_false, not_or] at hname
        exact if_neg hname.1.2.2
    · next hup =>
      refine ⟨s :: names, steps, rfl, List.forall_mem_cons.mpr ⟨⟨?_, hs⟩, hnames⟩, hsteps⟩
      simp only [List.mem_cons, List.not_mem_nil, or_false, not_or]
      rw [not_or] at hstep
      exact ⟨hstep.1, hstep.2, hup⟩

/-- Resolving a path leads to segments that are resolved. -/
lemma isResolved_resolvedSegments (absolute : Bool) (p : Text) :
    IsResolved absolute (resolvedSegments absolute (Text.splitAt Text.slash p)).reverse := by
  rw [resolvedSegments, List.reverse_reverse]
  refine List.foldlRecOn (motive := IsResolved absolute) _ _ (isResolved_nil absolute)
    fun walked h s hs => ?_
  exact h.enter (Text.notMem_of_mem_splitAt hs)

/-- Walking over a path from resolved segments leads to such. -/
lemma IsResolved.walk (h : IsResolved true walked) (p : Text) : IsResolved true (walk p walked) :=
  List.foldlRecOn (motive := IsResolved true) _ _ h fun _ h _ hs =>
    h.enter (Text.notMem_of_mem_splitAt hs)

lemma IsResolved.isSegment (h : IsResolved absolute walked) :
    ∀ s ∈ walked, IsSegment s ∧ s ≠ here := by
  obtain ⟨names, steps, rfl, hnames, -⟩ := h
  intro s hs
  rcases List.mem_append.mp hs with hname | hup
  · obtain ⟨hname, hslash⟩ := hnames s hname
    simp only [List.mem_cons, List.not_mem_nil, or_false, not_or] at hname
    exact ⟨⟨hname.1, hslash⟩, hname.2.1⟩
  · rw [List.eq_of_mem_replicate hup]
    exact ⟨⟨by decide, by decide⟩, by decide⟩

/-- In the order of the path the steps up come first, and then the names. -/
lemma IsResolved.exists_eq {segments : List Text} (h : IsResolved absolute segments.reverse) :
    ∃ steps names, segments = List.replicate steps up ++ names
      ∧ (absolute = true → steps = 0) ∧ ∀ s ∈ names, s ∉ [[], here, up] := by
  obtain ⟨names, steps, hsegments, hnames, hsteps⟩ := h
  refine ⟨steps, names.reverse, ?_, hsteps, fun s hs => (hnames s (List.mem_reverse.mp hs)).1⟩
  rw [← List.reverse_reverse segments, hsegments, List.reverse_append, List.reverse_replicate]

lemma IsResolved.isSegment_of_mem {segments : List Text} (h : IsResolved absolute segments.reverse)
    {s : Text} (hs : s ∈ segments) : IsSegment s :=
  (h.isSegment s (List.mem_reverse.mpr hs)).1

/-- Segments that are resolved are the way to themselves. -/
lemma IsResolved.foldl_enter {segments : List Text} (h : IsResolved absolute segments.reverse) :
    segments.foldl (Path.enter absolute) [] = segments.reverse := by
  obtain ⟨steps, names, rfl, hsteps, hnames⟩ := h.exists_eq
  have hup : (List.replicate steps up).foldl (Path.enter absolute) []
      = List.replicate steps up := by
    clear h
    induction steps with
    | zero => rfl
    | succ steps ih =>
      cases absolute with
      | true => cases hsteps rfl
      | false =>
        have hagain : Path.enter false (List.replicate steps up) up
            = List.replicate (steps + 1) up := by
          cases steps <;> rfl
        rw [List.replicate_succ', List.foldl_append, ih (fun h => nomatch h), List.foldl_cons,
          List.foldl_nil, hagain, List.replicate_succ']
  rw [List.foldl_append, hup, foldl_enter_names hnames, List.reverse_append, List.reverse_replicate]

/-- A step among resolved segments is the same step from wherever these lead. -/
lemma IsResolved.foldl_enter_enter (h : IsResolved absolute walked) {before : List Text}
    (hbefore : absolute = true → before = []) (s : Text) :
    (Path.enter absolute walked s).reverse.foldl (Path.enter true) before
      = Path.enter true (walked.reverse.foldl (Path.enter true) before) s := by
  by_cases hblank : s = [] ∨ s = here
  · rw [enter_of_blank hblank, enter_of_blank hblank]
  by_cases hup : s = up
  · subst hup
    cases walked with
    | nil =>
      -- A step up is kept, except at the root, where there is nothing above.
      cases absolute with
      | true =>
        rw [hbefore rfl]
        rfl
      | false => rfl
    | cons last rest =>
      by_cases hlast : last = up
      · have hagain : Path.enter absolute (up :: rest) up = up :: up :: rest := rfl
        rw [hlast, hagain, List.reverse_cons, List.foldl_append]
        rfl
      · -- The last segment is a name: it is entered and taken back.
        obtain ⟨⟨hempty, -⟩, hhere⟩ := h.isSegment last List.mem_cons_self
        have hname : last ∉ [[], here, up] := by
          simp only [List.mem_cons, List.not_mem_nil, or_false, not_or]
          exact ⟨hempty, hhere, hlast⟩
        have hback : ∀ rooted before, Path.enter rooted (last :: before) up = before := fun _ _ =>
          if_neg hlast
        rw [hback, List.reverse_cons, List.foldl_append, List.foldl_cons, List.foldl_nil,
          enter_of_name hname, hback]
  · have hname : s ∉ [[], here, up] := by
      simp only [List.mem_cons, List.not_mem_nil, or_false, not_or]
      exact ⟨fun hempty => hblank (.inl hempty), fun hhere => hblank (.inr hhere), hup⟩
    rw [enter_of_name hname, List.reverse_cons, List.foldl_append]
    rfl

/-- The segments that resolving a path leaves lead where all its segments lead. -/
lemma foldl_resolvedSegments (p : Text) {before : List Text}
    (hbefore : absolute = true → before = []) :
    (resolvedSegments absolute (Text.splitAt Text.slash p)).foldl (enter true) before
      = walk p before := by
  -- The induction is on the segments that are still to come, from any that are resolved already.
  have hfold : ∀ segments walked : List Text, (∀ s ∈ segments, Text.slash ∉ s) →
      IsResolved absolute walked →
      (segments.foldl (enter absolute) walked).reverse.foldl (enter true) before
        = segments.foldl (enter true) (walked.reverse.foldl (enter true) before) := by
    intro segments
    induction segments with
    | nil => exact fun walked _ _ => rfl
    | cons s segments ih =>
      intro walked hsegments h
      obtain ⟨hs, hsegments⟩ := List.forall_mem_cons.mp hsegments
      rw [List.foldl_cons, ih _ hsegments (h.enter hs), h.foldl_enter_enter hbefore,
        List.foldl_cons]
  exact hfold _ [] (fun s hs => Text.notMem_of_mem_splitAt hs) (isResolved_nil absolute)

/-! ## Spelled paths -/

/-- A path from segments, with slashes at its ends or without them. -/
def spell (absolute trailing : Bool) (segments : List Text) : Text :=
  (if absolute then [Text.slash] else []) ++ Text.join [Text.slash] segments
    ++ if trailing then [Text.slash] else []

/-- Joined segments begin with the first one. -/
lemma exists_join_eq_append (s : Text) (segments : List Text) :
    ∃ rest, Text.join [Text.slash] (s :: segments) = s ++ rest := by
  by_cases hnil : segments = []
  · exact ⟨[], by rw [hnil, List.append_nil]; rfl⟩
  · rw [Text.join_cons _ _ hnil, List.append_assoc]
    exact ⟨_, rfl⟩

/-- Joined segments end with the last one. -/
lemma exists_join_append_eq (segments : List Text) (s : Text) :
    ∃ front, Text.join [Text.slash] (segments ++ [s]) = front ++ s := by
  by_cases hnil : segments = []
  · exact ⟨[], by rw [hnil]; rfl⟩
  · rw [Text.join_append _ hnil (List.cons_ne_nil _ _)]
    exact ⟨_, rfl⟩

variable {trailing : Bool} {segments : List Text}

lemma join_ne_nil (hne : segments ≠ []) (h : ∀ s ∈ segments, IsSegment s) :
    Text.join [Text.slash] segments ≠ [] := by
  obtain ⟨s, rest, rfl⟩ := List.exists_cons_of_ne_nil hne
  obtain ⟨body, hbody⟩ := exists_join_eq_append s rest
  rw [hbody]
  exact List.append_ne_nil_of_left_ne_nil (h s List.mem_cons_self).1 _

lemma splitAt_spell (hne : segments ≠ []) (h : ∀ s ∈ segments, IsSegment s) :
    Text.splitAt Text.slash (spell absolute trailing segments)
      = (if absolute then [[]] else []) ++ (segments ++ if trailing then [[]] else []) := by
  have hbody := Text.splitAt_join hne fun s hs => (h s hs).2
  have htail : Text.splitAt Text.slash
        (Text.join [Text.slash] segments ++ if trailing then [Text.slash] else [])
      = segments ++ if trailing then [[]] else [] := by
    cases trailing with
    | true =>
      rw [if_pos rfl, if_pos rfl, Text.splitAt_append_cons, hbody]
      rfl
    | false =>
      rw [if_neg Bool.false_ne_true, if_neg Bool.false_ne_true, List.append_nil, hbody,
        List.append_nil]
  rw [spell, List.append_assoc]
  cases absolute with
  | true =>
    rw [if_pos rfl, if_pos rfl, List.singleton_append, Text.splitAt, if_pos rfl, htail]
    rfl
  | false =>
    rw [if_neg Bool.false_ne_true, if_neg Bool.false_ne_true, List.nil_append, htail]
    rfl

lemma isAbsolute_spell (hne : segments ≠ []) (h : ∀ s ∈ segments, IsSegment s) :
    isAbsolute (spell absolute trailing segments) = absolute := by
  cases absolute with
  | true => rfl
  | false =>
    obtain ⟨s, rest, rfl⟩ := List.exists_cons_of_ne_nil hne
    obtain ⟨hempty, hslash⟩ := h s List.mem_cons_self
    obtain ⟨c, others, rfl⟩ := List.exists_cons_of_ne_nil hempty
    obtain ⟨body, hbody⟩ := exists_join_eq_append (c :: others) rest
    have hc : c ≠ Text.slash := fun heq => hslash (heq ▸ List.mem_cons_self)
    rw [isAbsolute, spell, hbody]
    simpa using hc

lemma hasTrailingSlash_spell (hne : segments ≠ []) (h : ∀ s ∈ segments, IsSegment s) :
    hasTrailingSlash (spell absolute trailing segments) = trailing := by
  cases trailing with
  | true =>
    rw [hasTrailingSlash, spell, if_pos rfl, List.getLast?_concat]
    rfl
  | false =>
    obtain ⟨before, s, rfl⟩ := (List.eq_nil_or_concat' segments).resolve_left hne
    obtain ⟨hempty, hslash⟩ := h s (List.mem_append_right before (List.mem_singleton_self s))
    obtain ⟨front, hfront⟩ := exists_join_append_eq before s
    rw [hasTrailingSlash, spell, if_neg Bool.false_ne_true, List.append_nil, hfront,
      ← List.append_assoc, List.getLast?_append_of_ne_nil _ hempty]
    exact beq_false_of_ne fun heq => hslash (List.mem_of_getLast? heq)

/-- Walking over empty segments at the ends of others is no step. -/
lemma foldl_enter_splitAt_spell (hne : segments ≠ []) (h : ∀ s ∈ segments, IsSegment s)
    (rooted : Bool) (walked : List Text) :
    (Text.splitAt Text.slash (spell absolute trailing segments)).foldl (enter rooted) walked
      = segments.foldl (enter rooted) walked := by
  have hempty : ∀ (slash : Bool) (walked : List Text),
      (if slash then [[]] else []).foldl (enter rooted) walked = walked := by
    intro slash walked
    cases slash with
    | true =>
      show enter rooted walked [] = walked
      exact enter_of_blank (.inl rfl) walked
    | false => rfl
  rw [splitAt_spell hne h, List.foldl_append, List.foldl_append, hempty, hempty]

/-- A path of resolved segments does not begin with a dot and a slash. -/
lemma not_prefix_spell (hne : segments ≠ []) (h : IsResolved absolute segments.reverse) :
    ¬[Text.dot, Text.slash] <+: spell absolute trailing segments := by
  rintro ⟨rest, hrest⟩
  cases absolute with
  | true => cases hrest
  | false =>
    obtain ⟨s, others, rfl⟩ := List.exists_cons_of_ne_nil hne
    obtain ⟨⟨hempty, hslash⟩, hhere⟩ := h.isSegment s (List.mem_reverse.mpr List.mem_cons_self)
    obtain ⟨body, hbody⟩ := exists_join_eq_append s others
    rw [spell, hbody, if_neg Bool.false_ne_true, List.nil_append, List.append_assoc] at hrest
    -- The first segment begins with a dot, so it is the dot alone or goes on with a slash.
    cases s with
    | nil => exact hempty rfl
    | cons c s =>
      obtain ⟨hc, hrest⟩ := List.cons.inj hrest
      cases s with
      | nil => exact hhere (hc ▸ rfl)
      | cons d s =>
        have hd := (List.cons.inj hrest).1
        exact hslash (hd ▸ List.mem_cons_of_mem c List.mem_cons_self)

/-! ## The normal form -/

/-- The segments that resolving a path with forward slashes leaves. -/
def normalSegments (p : Text) : List Text :=
  resolvedSegments (isAbsolute p) (Text.splitAt Text.slash p)

lemma isResolved_normalSegments (p : Text) :
    IsResolved (isAbsolute p) (normalSegments p).reverse :=
  isResolved_resolvedSegments (isAbsolute p) p

lemma isSegment_of_mem_normalSegments {p s : Text} (h : s ∈ normalSegments p) : IsSegment s :=
  (isResolved_normalSegments p).isSegment_of_mem h

lemma normalSegments_spell (hne : segments ≠ []) (h : IsResolved absolute segments.reverse) :
    normalSegments (spell absolute trailing segments) = segments := by
  have hsegment : ∀ s ∈ segments, IsSegment s := fun s hs => h.isSegment_of_mem hs
  rw [normalSegments, isAbsolute_spell hne hsegment, resolvedSegments,
    foldl_enter_splitAt_spell hne hsegment, h.foldl_enter, List.reverse_reverse]

lemma posixNormal_of_ne_nil {p : Text} (hne : normalSegments p ≠ []) :
    posixNormal p = spell (isAbsolute p) (hasTrailingSlash p) (normalSegments p) := by
  have hbody := join_ne_nil hne fun s hs => isSegment_of_mem_normalSegments hs
  unfold posixNormal
  exact if_neg hbody

lemma posixNormal_of_eq_nil {p : Text} (hnil : normalSegments p = []) :
    posixNormal p = if isAbsolute p then [Text.slash]
      else if hasTrailingSlash p then [Text.dot, Text.slash] else here := by
  unfold posixNormal
  exact if_pos (congrArg (Text.join [Text.slash]) hnil)

/-- The normal form of a path that has segments left is spelled from these. -/
lemma normalize_of_ne_nil {p : Text} (hne : normalSegments (toForward p) ≠ []) :
    normalize p = spell (isAbsolute (toForward p)) (hasTrailingSlash (toForward p))
      (normalSegments (toForward p)) := by
  have hp : p ≠ [] := by
    rintro rfl
    exact hne rfl
  have hopening : ¬[Text.dot, Text.slash] <+: spell (isAbsolute (toForward p))
      (hasTrailingSlash (toForward p)) (normalSegments (toForward p)) :=
    not_prefix_spell hne (isResolved_normalSegments (toForward p))
  rw [← List.isPrefixOf_iff_prefix] at hopening
  unfold normalize
  simp only [posixNormal_of_ne_nil hne]
  rw [if_neg hp, if_neg hopening]

/-- A path that has no segments left is the root, or leads nowhere. -/
lemma normalize_of_eq_nil {p : Text} (hnil : normalSegments (toForward p) = []) :
    normalize p ∈ [[], here, [Text.slash]]
      ∧ isAbsolute (normalize p) = isAbsolute (toForward p) := by
  by_cases hp : p = []
  · rw [hp]
    decide
  unfold normalize
  simp only [posixNormal_of_eq_nil hnil, if_neg hp]
  cases isAbsolute (toForward p) <;> cases hasTrailingSlash (toForward p) <;> decide

/-- The normal form of a path is absolute if the path is. -/
lemma isAbsolute_normalize (p : Text) : isAbsolute (normalize p) = isAbsolute (toForward p) := by
  by_cases hnil : normalSegments (toForward p) = []
  · exact (normalize_of_eq_nil hnil).2
  · rw [normalize_of_ne_nil hnil]
    exact isAbsolute_spell hnil fun s hs => isSegment_of_mem_normalSegments hs

/-- Walking over the normal form of a path is walking over the segments that are left. -/
lemma walk_normalize (p : Text) (walked : List Text) :
    walk (normalize p) walked = (normalSegments (toForward p)).foldl (enter true) walked := by
  by_cases hnil : normalSegments (toForward p) = []
  · rw [hnil]
    have hend := (normalize_of_eq_nil hnil).1
    simp only [List.mem_cons, List.not_mem_nil, or_false] at hend
    rcases hend with heq | heq | heq <;> rw [heq]
    · exact walk_nil walked
    · exact walk_of_notMem (by decide) walked
    · exact walk_nil walked
  · rw [normalize_of_ne_nil hnil, walk]
    exact foldl_enter_splitAt_spell hnil (fun s hs => isSegment_of_mem_normalSegments hs) true
      walked

/-- The normal form of a path leads where the path with forward slashes leads. -/
theorem resolve_normalize (base p : Text) :
    resolve base (normalize p) = resolve base (toForward p) := by
  have hstart : start base (normalize p) = start base (toForward p) := by
    rw [start, start, isAbsolute_normalize]
  -- An absolute path drops steps up as the walk from the root does, a relative one keeps them.
  have hroot : isAbsolute (toForward p) = true → start base (toForward p) = [] := fun h =>
    if_pos h
  rw [resolve_eq, resolve_eq, walk_normalize, hstart, normalSegments,
    foldl_resolvedSegments _ hroot]

/-- The normal form of a path is in normal form. -/
theorem normalize_normalize (p : Text) : normalize (normalize p) = normalize p := by
  have hforward := toForward_of_notMem (backslash_notMem_normalize p)
  by_cases hnil : normalSegments (toForward p) = []
  · have hself : ∀ n ∈ [([] : Text), here, [Text.slash]], normalize n = n := by decide
    exact hself _ (normalize_of_eq_nil hnil).1
  · have hsegment : ∀ s ∈ normalSegments (toForward p), IsSegment s := fun s hs =>
      isSegment_of_mem_normalSegments hs
    have hself := normalize_of_ne_nil hnil
    -- The normal form has the same segments left, so that it is spelled the same way again.
    have hsegments : normalSegments (normalize p) = normalSegments (toForward p) := by
      rw [hself]
      exact normalSegments_spell hnil (isResolved_normalSegments (toForward p))
    rw [normalize_of_ne_nil (by rw [hforward, hsegments]; exact hnil), hforward, hsegments, hself,
      isAbsolute_spell hnil hsegment, hasTrailingSlash_spell hnil hsegment]

/-! ## The canonical form -/

/-- A path in canonical form: forward slashes, no `./` at the beginning, and, unless the path is
empty, `.` or the root, steps up and then names, with or without a slash before them and one behind
them. An absolute path has no steps up. -/
structure IsCanonical (p : Text) : Prop where
  backslash_notMem : Text.backslash ∉ p
  no_opening : ¬[Text.dot, Text.slash] <+: p
  segments : p ∈ [[], here, [Text.slash]] ∨ ∃ steps names,
    Text.splitAt Text.slash p = (if isAbsolute p then [[]] else [])
        ++ List.replicate steps up ++ names ++ (if hasTrailingSlash p then [[]] else [])
      ∧ (isAbsolute p = true → steps = 0) ∧ ∀ s ∈ names, s ∉ [[], here, up]

/-- The normal form of a path is in canonical form. -/
lemma isCanonical_normalize (p : Text) : IsCanonical (normalize p) := by
  by_cases hnil : normalSegments (toForward p) = []
  · have hend := (normalize_of_eq_nil hnil).1
    have hopening : ∀ n ∈ [([] : Text), here, [Text.slash]], ¬[Text.dot, Text.slash] <+: n := by
      decide
    exact ⟨backslash_notMem_normalize p, hopening _ hend, .inl hend⟩
  · have hsegment : ∀ s ∈ normalSegments (toForward p), IsSegment s := fun s hs =>
      isSegment_of_mem_normalSegments hs
    have hresolved := isResolved_normalSegments (toForward p)
    refine ⟨backslash_notMem_normalize p, ?_, .inr ?_⟩
    · rw [normalize_of_ne_nil hnil]
      exact not_prefix_spell hnil hresolved
    · obtain ⟨steps, names, hsegments, hsteps, hnames⟩ := hresolved.exists_eq
      refine ⟨steps, names, ?_, ?_, hnames⟩
      · rw [normalize_of_ne_nil hnil, splitAt_spell hnil hsegment, isAbsolute_spell hnil hsegment,
          hasTrailingSlash_spell hnil hsegment, hsegments]
        simp only [List.append_assoc]
      · rw [isAbsolute_normalize]
        exact hsteps

/-- The normal form of a path is in canonical form, leads where the path leads with its backslashes
read as slashes, and is its own normal form. -/
theorem isCanonical_normalize_and_resolves (p : Text) :
    IsCanonical (normalize p) ∧ (∀ base, resolve base (normalize p) = resolve base (toForward p))
      ∧ normalize (normalize p) = normalize p :=
  ⟨isCanonical_normalize p, fun base => resolve_normalize base p, normalize_normalize p⟩

-- Names are taken back before steps up are left.
example : normalize (Text.ofString ".\\a//b/../../../c/") = Text.ofString "../c/" := by decide

end Path

end CallAtlas
