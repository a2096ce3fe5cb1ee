import CallAtlas.Proofs.Keys
import CallAtlas.Proofs.Model.Ranges
import CallAtlas.Proofs.Text.Order
import Mathlib.Data.List.TakeWhile

/-!
# The ranges of the definitions of a file

Declarations are clamped, ordered and thinned out with a stack of those that are still open. The
stack is a chain of ranges, each inside the next one; what leaves it ends before everything that is
still to come. So the ranges that are kept fit together, whatever ranges the declarations had, and
comparing with the top of the stack is as good as comparing with all that was kept.
-/

namespace CallAtlas

namespace Assembly

open LineRange

/-! ## Repetitions and order -/

/-- Dropping repetitions drops some declarations and moves none. -/
lemma dropRepeated_sublist (ds : List Declaration) : (dropRepeated ds).Sublist ds := by
  induction ds with
  | nil => exact .refl _
  | cons d rest ih => exact (List.filter_sublist.trans ih).cons_cons d

lemma outerFirst_iff {a b : Declaration} :
    outerFirst a b = true ↔ a.range.Precedes b.range := by
  rw [outerFirst, Bool.or_eq_true, Bool.and_eq_true, decide_eq_true_eq, decide_eq_true_eq,
    beq_iff_eq]
  rfl

lemma outerFirst_trans (a b c : Declaration) (hab : outerFirst a b = true)
    (hbc : outerFirst b c = true) : outerFirst a c = true := by
  rw [outerFirst_iff] at hab hbc ⊢
  exact hab.trans hbc

lemma outerFirst_total (a b : Declaration) : (outerFirst a b || outerFirst b a) = true := by
  rw [Bool.or_eq_true, outerFirst_iff, outerFirst_iff]
  exact precedes_total a.range b.range

/-- Ordered declarations stand in the order of a file. -/
theorem order_pairwise (ds : List Declaration) :
    (order ds).Pairwise fun a b => a.range.Precedes b.range :=
  (List.pairwise_mergeSort outerFirst_trans outerFirst_total ds).imp outerFirst_iff.mp

/-- Ordering leaves declarations with the same range in their order. -/
lemma filter_order (ds : List Declaration) (r : LineRange) :
    ((order ds).filter fun d => d.range = r) = ds.filter fun d => d.range = r := by
  apply filter_mergeSort outerFirst_trans outerFirst_total
  intro a b ha hb
  rw [outerFirst_iff, of_decide_eq_true ha, of_decide_eq_true hb]
  exact .inr ⟨rfl, le_rfl⟩

/-- What a declaration says that is not to be said twice. -/
def identity (d : Declaration) : DeclarationKind × Text × LineRange :=
  (d.kind, d.qualifiedName, d.range)

lemma same_iff {a b : Declaration} : same a b = true ↔ identity a = identity b := by
  rw [same, Bool.and_eq_true, Bool.and_eq_true, beq_iff_eq, beq_iff_eq, beq_iff_eq, identity,
    identity, Prod.mk.injEq, Prod.mk.injEq, and_assoc]

/-- What is left without repetitions are the first declarations of their kind. -/
lemma dropRepeated_eq (ds : List Declaration) : dropRepeated ds = firstsBy identity ds := by
  -- The declarations that were met before are left out of what is still to come.
  have hfresh : ∀ seen, (dropRepeated ds).filter (fun d => identity d ∉ seen)
      = freshBy identity seen ds := by
    induction ds with
    | nil => exact fun _ => rfl
    | cons d rest ih =>
      intro seen
      have hrest : ((dropRepeated rest).filter fun e => !same d e).filter (identity · ∉ seen)
          = (dropRepeated rest).filter (identity · ∉ identity d :: seen) := by
        rw [List.filter_filter]
        apply List.filter_congr
        intro e _
        rw [Bool.eq_iff_iff]
        simp only [Bool.and_eq_true, Bool.not_eq_true', decide_eq_true_eq, List.mem_cons, not_or,
          ← Bool.not_eq_true, same_iff]
        rw [and_comm, eq_comm]
      rw [dropRepeated, freshBy_cons]
      split
      · next hmem =>
        rw [List.filter_cons_of_neg (by simpa using hmem), hrest, ← ih seen]
        apply List.filter_congr
        intro e _
        rw [decide_eq_decide, List.mem_cons, not_or]
        exact ⟨And.right, fun hnew => ⟨fun heq => hnew (heq ▸ hmem), hnew⟩⟩
      · next hnew => rw [List.filter_cons_of_pos (by simpa using hnew), hrest, ih]
  rw [firstsBy, ← hfresh []]
  simp only [List.not_mem_nil, not_false_eq_true, decide_true, List.filter_true]

/-! ## The stack of open declarations -/

/-- Dropping overlaps drops some declarations and moves none. -/
lemma dropOverlaps_sublist (opened ds : List Declaration) :
    (dropOverlaps opened ds).Sublist ds := by
  induction ds generalizing opened with
  | nil => exact .refl _
  | cons d rest ih =>
    rw [dropOverlaps]
    split
    · exact (ih _).cons_cons d
    · split
      · exact (ih _).cons_cons d
      · exact (ih _).cons d

/-- The declarations that are open when others are to come: each lies inside the next one, and all
of them precede what is to come. -/
structure Opened (opened rest : List Declaration) : Prop where
  chain : opened.Pairwise fun inner outer => outer.range.Contains inner.range
  precedes : ∀ o ∈ opened, ∀ d ∈ rest, o.range.Precedes d.range

lemma opened_nil (rest : List Declaration) : Opened [] rest where
  chain := .nil
  precedes o ho := by cases ho

/-- The declarations that do not end before the next one. -/
def stillOpen (opened : List Declaration) (d : Declaration) : List Declaration :=
  opened.dropWhile fun o => o.endLine < d.startLine

lemma stillOpen_sublist (opened : List Declaration) (d : Declaration) :
    (stillOpen opened d).Sublist opened :=
  List.dropWhile_sublist _

lemma mem_stillOpen_or_ended {opened : List Declaration} {o : Declaration} (ho : o ∈ opened)
    (d : Declaration) : o ∈ stillOpen opened d ∨ o.endLine < d.startLine := by
  rw [← List.takeWhile_append_dropWhile (p := fun o => decide (o.endLine < d.startLine))
    (l := opened)] at ho
  rcases List.mem_append.mp ho with ho | ho
  · have hended := List.mem_takeWhile_imp ho
    exact .inr (of_decide_eq_true hended)
  · exact .inl ho

lemma dropOverlaps_cons (opened : List Declaration) (d : Declaration) (rest : List Declaration) :
    dropOverlaps opened (d :: rest)
      = match stillOpen opened d with
        | [] => d :: dropOverlaps [d] rest
        | parent :: outer =>
          if parent.range.contains d.range then d :: dropOverlaps (d :: parent :: outer) rest
          else dropOverlaps (parent :: outer) rest := by
  rw [dropOverlaps, ← stillOpen]
  cases stillOpen opened d with
  | nil => rfl
  | cons parent outer => rfl

/-- The innermost declaration that is still open reaches the next one. -/
lemma not_ended_of_stillOpen_eq_cons {opened outer : List Declaration} {parent d : Declaration}
    (h : stillOpen opened d = parent :: outer) : ¬parent.endLine < d.startLine := by
  have hhead := List.head?_dropWhile_not (fun o => decide (o.endLine < d.startLine)) opened
  rw [stillOpen] at h
  rw [h] at hhead
  simpa using hhead

/-- What is still open at the next declaration is open at those behind it. -/
lemma Opened.closes {opened rest : List Declaration} {d : Declaration}
    (h : Opened opened (d :: rest)) : Opened (stillOpen opened d) rest where
  chain := h.chain.sublist (stillOpen_sublist opened d)
  precedes o ho e he :=
    h.precedes o ((stillOpen_sublist opened d).mem ho) e (List.mem_cons_of_mem d he)

/-- What lies inside the innermost open declaration lies inside all of them. -/
lemma Opened.contains_of_head {parent : Declaration} {outer rest : List Declaration}
    {r : LineRange} (h : Opened (parent :: outer) rest) (hr : parent.range.Contains r) :
    ∀ o ∈ parent :: outer, o.range.Contains r := by
  intro o ho
  rcases List.mem_cons.mp ho with rfl | ho
  · exact hr
  · exact ((List.pairwise_cons.mp h.chain).1 o ho).trans hr

/-- A declaration is kept and opened if it lies inside all that are still open, and dropped if it
does not lie inside the innermost of them, which reaches it. -/
lemma Opened.dropOverlaps_cons_cases {opened rest : List Declaration} {d : Declaration}
    (h : Opened opened (d :: rest)) :
    (∀ o ∈ stillOpen opened d, o.range.Contains d.range)
        ∧ dropOverlaps opened (d :: rest) = d :: dropOverlaps (d :: stillOpen opened d) rest
      ∨ (∃ parent ∈ stillOpen opened d,
          ¬parent.endLine < d.startLine ∧ ¬parent.range.Contains d.range)
        ∧ dropOverlaps opened (d :: rest) = dropOverlaps (stillOpen opened d) rest := by
  have hopened := h.closes
  cases hstill : stillOpen opened d with
  | nil =>
    refine .inl ⟨fun _ ho => absurd ho List.not_mem_nil, ?_⟩
    rw [dropOverlaps_cons, hstill]
  | cons parent outer =>
    rw [hstill] at hopened
    rw [dropOverlaps_cons, hstill]
    by_cases hcontains : parent.range.contains d.range
    · exact .inl ⟨hopened.contains_of_head (contains_iff.mp hcontains), if_pos hcontains⟩
    · refine .inr ⟨⟨parent, List.mem_cons_self, not_ended_of_stillOpen_eq_cons hstill, ?_⟩,
        if_neg hcontains⟩
      rwa [← contains_iff]

/-- A declaration inside the innermost open one is inside all of them and is opened. -/
lemma Opened.push {opened rest : List Declaration} {d : Declaration}
    (h : Opened opened rest) (hinside : ∀ o ∈ opened, o.range.Contains d.range)
    (hrest : ∀ e ∈ rest, d.range.Precedes e.range) : Opened (d :: opened) rest where
  chain := List.pairwise_cons.mpr ⟨hinside, h.chain⟩
  precedes := by
    intro o ho e he
    rcases List.mem_cons.mp ho with rfl | ho
    · exact hrest e he
    · exact h.precedes o ho e he

/-- What has ended before a declaration lies apart from it and from all that is to come. -/
lemma fits_of_ended {o d : Declaration} (h : o.endLine < d.startLine) {rest : List Declaration}
    (hrest : ∀ e ∈ rest, d.range.Precedes e.range) : ∀ e ∈ d :: rest, o.range.Fits e.range := by
  intro e he
  rcases List.mem_cons.mp he with rfl | he
  · exact .inl (.inl h)
  · exact .inl (.inl (h.trans_le (hrest e he).first_le))

/-- What fits with the declarations that are still open fits with all that were open before. -/
lemma fits_of_stillOpen {opened rest kept : List Declaration} {d : Declaration}
    (hrest : ∀ e ∈ rest, d.range.Precedes e.range) (hkept : kept ⊆ d :: rest)
    (h : ∀ o ∈ stillOpen opened d, ∀ e ∈ kept, o.range.Fits e.range) :
    ∀ o ∈ opened, ∀ e ∈ kept, o.range.Fits e.range := by
  intro o ho e he
  rcases mem_stillOpen_or_ended ho d with hopen | hended
  · exact h o hopen e he
  · exact fits_of_ended hended hrest e (hkept he)

/-- Declarations in order that are kept fit together and with those that are open. -/
theorem dropOverlaps_fits {opened ds : List Declaration} (h : Opened opened ds)
    (hsorted : ds.Pairwise fun a b => a.range.Precedes b.range) :
    (∀ o ∈ opened, ∀ e ∈ dropOverlaps opened ds, o.range.Fits e.range)
      ∧ (dropOverlaps opened ds).Pairwise fun a b => a.range.Fits b.range := by
  -- The open declarations stand for all that was kept before: the others have ended.
  induction ds generalizing opened with
  | nil =>
    refine ⟨?_, .nil⟩
    intro o _ e he
    cases he
  | cons d rest ih =>
    obtain ⟨hrest, hsorted⟩ := List.pairwise_cons.mp hsorted
    rcases h.dropOverlaps_cons_cases with ⟨hinside, hkeep⟩ | ⟨-, hdrop⟩
    · obtain ⟨hfits, hpairs⟩ := ih (h.closes.push hinside hrest) hsorted
      rw [hkeep]
      refine ⟨?_, List.pairwise_cons.mpr ⟨hfits d List.mem_cons_self, hpairs⟩⟩
      apply fits_of_stillOpen hrest (List.cons_subset_cons d (dropOverlaps_sublist _ _).subset)
      intro o ho e he
      rcases List.mem_cons.mp he with rfl | he
      · exact .inr (.inl (hinside o ho))
      · exact hfits o (List.mem_cons_of_mem d ho) e he
    · -- A declaration that is dropped leaves open what was still open at it.
      obtain ⟨hfits, hpairs⟩ := ih h.closes hsorted
      rw [hdrop]
      refine ⟨fits_of_stillOpen hrest ?_ hfits, hpairs⟩
      exact List.subset_cons_of_subset d (dropOverlaps_sublist _ _).subset

/-! ## Comparing with all that was kept -/

/-- The declarations that do not partially overlap any that was kept before. -/
def keepFitting (kept : List Declaration) : List Declaration → List Declaration
  | [] => []
  | d :: ds =>
    if kept.any fun k => k.range.overlaps d.range then keepFitting kept ds
    else d :: keepFitting (d :: kept) ds

/-- The open declarations among those that were kept: the others end before all that is to come. -/
structure OpenAmong (kept opened rest : List Declaration) : Prop extends Opened opened rest where
  subset : opened ⊆ kept
  ended : ∀ k ∈ kept, k ∈ opened ∨ ∀ d ∈ rest, k.endLine < d.startLine

lemma openAmong_nil (rest : List Declaration) : OpenAmong [] [] rest where
  toOpened := opened_nil rest
  subset := List.Subset.refl []
  ended := by
    intro k hk
    cases hk

/-- What was kept before a declaration is still open at it or ends before it. -/
lemma OpenAmong.mem_stillOpen_or_ended {kept opened rest : List Declaration} {d : Declaration}
    (h : OpenAmong kept opened (d :: rest)) {k : Declaration} (hk : k ∈ kept) :
    k ∈ stillOpen opened d ∨ k.endLine < d.startLine := by
  rcases h.ended k hk with hopen | hended
  · exact Assembly.mem_stillOpen_or_ended hopen d
  · exact .inr (hended d List.mem_cons_self)

/-- What ends before a declaration ends before all that is to come. -/
lemma OpenAmong.closes {kept opened rest : List Declaration} {d : Declaration}
    (h : OpenAmong kept opened (d :: rest)) (hrest : ∀ e ∈ rest, d.range.Precedes e.range) :
    OpenAmong kept (stillOpen opened d) rest where
  toOpened := h.toOpened.closes
  subset _ ho := h.subset ((stillOpen_sublist opened d).mem ho)
  ended _ hk :=
    (h.mem_stillOpen_or_ended hk).imp_right fun hended e he =>
      hended.trans_le (hrest e he).first_le

/-- A declaration inside the open ones is kept and opened. -/
lemma OpenAmong.push {kept opened rest : List Declaration} {d : Declaration}
    (h : OpenAmong kept opened rest) (hinside : ∀ o ∈ opened, o.range.Contains d.range)
    (hrest : ∀ e ∈ rest, d.range.Precedes e.range) : OpenAmong (d :: kept) (d :: opened) rest where
  toOpened := h.toOpened.push hinside hrest
  subset := List.cons_subset_cons d h.subset
  ended := by
    intro k hk
    rcases List.mem_cons.mp hk with rfl | hk
    · exact .inl List.mem_cons_self
    · exact (h.ended k hk).imp_left (List.mem_cons_of_mem d)

/-- A declaration inside all that are still open overlaps nothing that was kept, as the others have
ended. -/
lemma OpenAmong.keepFitting_cons_of_contains {kept opened rest : List Declaration}
    {d : Declaration} (h : OpenAmong kept opened (d :: rest))
    (hinside : ∀ o ∈ stillOpen opened d, o.range.Contains d.range) :
    keepFitting kept (d :: rest) = d :: keepFitting (d :: kept) rest := by
  rw [keepFitting, if_neg]
  rw [List.any_eq_true]
  rintro ⟨k, hk, hoverlaps⟩
  apply overlaps_iff.mp hoverlaps
  rcases h.mem_stillOpen_or_ended hk with hopen | hended
  · exact .inr (.inl (hinside k hopen))
  · exact .inl (.inl hended)

/-- Comparing a declaration with the innermost open one is as good as comparing it with all that
were kept. -/
theorem dropOverlaps_eq_keepFitting {kept opened ds : List Declaration}
    (h : OpenAmong kept opened ds) (hsorted : ds.Pairwise fun a b => a.range.Precedes b.range)
    (hlines : ∀ d ∈ ds, d.startLine ≤ d.endLine) :
    dropOverlaps opened ds = keepFitting kept ds := by
  induction ds generalizing kept opened with
  | nil => rfl
  | cons d rest ih =>
    obtain ⟨hrest, hsorted⟩ := List.pairwise_cons.mp hsorted
    obtain ⟨hd, hlines⟩ := List.forall_mem_cons.mp hlines
    have hopen := h.closes hrest
    rcases h.toOpened.dropOverlaps_cons_cases with
      ⟨hinside, hkeep⟩ | ⟨⟨parent, hparent, hreaches, hcontains⟩, hdrop⟩
    · rw [hkeep, h.keepFitting_cons_of_contains hinside,
        ih (hopen.push hinside hrest) hsorted hlines]
    · -- The innermost open declaration begins first and reaches this one, so the two overlap.
      have hbefore : parent.range.Precedes d.range :=
        h.precedes parent ((stillOpen_sublist opened d).mem hparent) d List.mem_cons_self
      have hoverlaps : parent.range.overlaps d.range = true :=
        overlaps_iff.mpr fun hfits => hcontains (hfits.contains_of_precedes hbefore hreaches hd)
      rw [hdrop, ih hopen hsorted hlines, keepFitting, if_pos]
      exact List.any_eq_true.mpr ⟨parent, hopen.subset hparent, hoverlaps⟩

/-- Declarations that fit together are all kept. -/
lemma keepFitting_of_pairwise {kept ds : List Declaration}
    (hkept : ∀ k ∈ kept, ∀ d ∈ ds, k.range.Fits d.range)
    (h : ds.Pairwise fun a b => a.range.Fits b.range) : keepFitting kept ds = ds := by
  induction ds generalizing kept with
  | nil => rfl
  | cons d rest ih =>
    obtain ⟨hd, hrest⟩ := List.pairwise_cons.mp h
    rw [keepFitting, if_neg, ih _ hrest]
    · intro k hk e he
      rcases List.mem_cons.mp hk with rfl | hk
      · exact hd e he
      · exact hkept k hk e (List.mem_cons_of_mem d he)
    · rw [List.any_eq_true]
      rintro ⟨k, hk, hoverlaps⟩
      exact overlaps_iff.mp hoverlaps (hkept k hk d List.mem_cons_self)

/-! ## The definitions of a file -/

/-- What becomes a definition is a declaration with its lines brought into the file. -/
lemma exists_of_mem_settle {lineCount : Number} {ds : List Declaration} {d : Declaration}
    (h : d ∈ settle lineCount ds) : ∃ e ∈ ds, clampDeclaration lineCount e = d := by
  have hordered := (dropOverlaps_sublist [] _).mem h
  rw [order, List.mem_mergeSort] at hordered
  exact List.mem_map.mp ((dropRepeated_sublist _).mem hordered)

/-- The declarations that become definitions lie in the file. -/
lemma within_settle {lineCount : Number} {ds : List Declaration} {d : Declaration}
    (h : d ∈ settle lineCount ds) : d.range.Within lineCount := by
  obtain ⟨e, -, rfl⟩ := exists_of_mem_settle h
  exact within_clampDeclaration lineCount e

/-- Declarations on whole lines stay on whole lines. -/
lemma isInteger_of_mem_settle {lineCount : Number} (hcount : lineCount.isInteger = true)
    {ds : List Declaration}
    (hds : ∀ d ∈ ds, d.startLine.isInteger = true ∧ d.endLine.isInteger = true) {d : Declaration}
    (h : d ∈ settle lineCount ds) : d.startLine.isInteger = true ∧ d.endLine.isInteger = true := by
  obtain ⟨e, he, rfl⟩ := exists_of_mem_settle h
  obtain ⟨hstart, hend⟩ := hds e he
  have hlast := isInteger_lastLine hcount
  have hfirst : (clamp e.startLine 1 (lastLine lineCount)).isInteger = true :=
    isInteger_clamp hstart rfl hlast
  exact ⟨hfirst, isInteger_clamp hend hfirst hlast⟩

/-- The declarations that become definitions stand in the order of a file. -/
lemma settle_pairwise_precedes (lineCount : Number) (ds : List Declaration) :
    (settle lineCount ds).Pairwise fun a b => a.range.Precedes b.range :=
  (order_pairwise _).sublist (dropOverlaps_sublist [] _)

/-- The declarations that become definitions fit together. -/
lemma settle_pairwise_fits (lineCount : Number) (ds : List Declaration) :
    (settle lineCount ds).Pairwise fun a b => a.range.Fits b.range :=
  (dropOverlaps_fits (opened_nil _) (order_pairwise _)).2

/-- No two declarations that become definitions say the same. -/
lemma nodup_map_identity_settle (lineCount : Number) (declarations : List Declaration) :
    ((settle lineCount declarations).map identity).Nodup := by
  have hfirsts := nodup_map_firstsBy identity (declarations.map (clampDeclaration lineCount))
  rw [← dropRepeated_eq, ← ((List.mergeSort_perm _ outerFirst).map identity).nodup_iff] at hfirsts
  exact hfirsts.sublist ((dropOverlaps_sublist [] _).map identity)

/-- Declarations in order are not moved. -/
lemma settle_of_pairwise {lineCount : Number} {ds : List Declaration}
    (h : (dropRepeated (ds.map (clampDeclaration lineCount))).Pairwise fun a b => outerFirst a b) :
    settle lineCount ds = dropOverlaps [] (dropRepeated (ds.map (clampDeclaration lineCount))) := by
  rw [settle, order, List.mergeSort_of_pairwise h]

/-- Calls in order are not moved. -/
lemma callsOf_of_pairwise {calls : List CallSite} (h : calls.Pairwise fun a b => callBefore a b)
    (kept : List Declaration) (number : Option ℕ) :
    callsOf kept calls number
      = calls.filter fun c => (ownerOf kept c).map Prod.snd == number := by
  rw [callsOf, orderCalls, List.mergeSort_of_pairwise (h.filter _)]

/-- The definition for the module, which is there if calls are left over for it. -/
def moduleDefinitions (filePath : Text) (lineCount : Number) (kept : List Declaration)
    (calls : List CallSite) : List Definition :=
  if (callsOf kept calls none).isEmpty then []
  else [moduleDefinition filePath lineCount (callsOf kept calls none)]

/-- The definitions of the declarations that are kept. -/
def declaredDefinitions (filePath : Text) (kept : List Declaration) (calls : List CallSite) :
    List Definition :=
  kept.zipIdx.map fun p => define filePath p.1 (callsOf kept calls (some p.2))

lemma definitions_eq (filePath : Text) (lineCount : Number) (declarations : List Declaration)
    (calls : List CallSite) :
    definitions filePath lineCount declarations calls
      = moduleDefinitions filePath lineCount (settle lineCount declarations) calls
        ++ declaredDefinitions filePath (settle lineCount declarations) calls := by
  unfold definitions moduleDefinitions
  dsimp only
  split <;> rfl

/-- Definitions say which file they are in. -/
lemma filePath_of_mem_definitions {filePath : Text} {lineCount : Number}
    {declarations : List Declaration} {calls : List CallSite} {d : Definition}
    (h : d ∈ definitions filePath lineCount declarations calls) : d.filePath = filePath := by
  rw [definitions_eq, List.mem_append] at h
  rcases h with h | h
  · rw [moduleDefinitions] at h
    split at h
    · cases h
    · rw [List.mem_singleton.mp h]
      rfl
  · obtain ⟨p, -, rfl⟩ := List.mem_map.mp h
    rfl

/-- The definitions of declarations have the ranges of these. -/
lemma map_range_declaredDefinitions (filePath : Text) (kept : List Declaration)
    (calls : List CallSite) :
    (declaredDefinitions filePath kept calls).map Definition.range
      = kept.map Declaration.range := by
  have hfst : kept.map Declaration.range = (kept.zipIdx.map Prod.fst).map Declaration.range := by
    rw [List.zipIdx_map_fst]
  rw [hfst, declaredDefinitions, List.map_map, List.map_map]
  rfl

/-- The ranges of the definitions of a file: first the whole file if there is a definition for the
module, then the ranges of the declarations that are kept. -/
lemma map_range_definitions (filePath : Text) (lineCount : Number)
    (declarations : List Declaration) (calls : List CallSite) :
    ∃ whole : List LineRange, (whole = [] ∨ whole = [⟨1, max 1 lineCount⟩])
      ∧ (definitions filePath lineCount declarations calls).map Definition.range
          = whole ++ (settle lineCount declarations).map Declaration.range := by
  rw [definitions_eq, List.map_append, map_range_declaredDefinitions]
  refine ⟨_, ?_, rfl⟩
  unfold moduleDefinitions
  split
  · exact .inl rfl
  · right
    rw [← lastLine_eq_max]
    rfl

/-- The whole file contains each range of it. -/
lemma whole_contains {lineCount : Number} {r : LineRange} (h : r.Within lineCount) :
    LineRange.Contains ⟨1, max 1 lineCount⟩ r :=
  ⟨h.1, h.2.2⟩

/-- The range of a definition is the whole file or that of a declaration that is kept. -/
lemma range_of_mem_definitions {filePath : Text} {lineCount : Number}
    {declarations : List Declaration} {calls : List CallSite} {d : Definition}
    (h : d ∈ definitions filePath lineCount declarations calls) :
    d.range = ⟨1, max 1 lineCount⟩ ∨ ∃ e ∈ settle lineCount declarations, e.range = d.range := by
  obtain ⟨whole, hwhole, hranges⟩ := map_range_definitions filePath lineCount declarations calls
  have hr : d.range ∈ whole ++ (settle lineCount declarations).map Declaration.range :=
    hranges ▸ List.mem_map_of_mem h
  rcases List.mem_append.mp hr with hr | hr
  · rcases hwhole with rfl | rfl
    · cases hr
    · exact .inl (List.mem_singleton.mp hr)
  · exact .inr (List.mem_map.mp hr)

/-- Definitions lie in the file. -/
lemma within_of_mem_definitions {filePath : Text} {lineCount : Number}
    {declarations : List Declaration} {calls : List CallSite} {d : Definition}
    (h : d ∈ definitions filePath lineCount declarations calls) : d.range.Within lineCount := by
  rcases range_of_mem_definitions h with heq | ⟨e, he, heq⟩
  · rw [heq]
    exact ⟨le_rfl, le_max_left 1 lineCount, le_rfl⟩
  · exact heq ▸ within_settle he

/-- Definitions of declarations on whole lines are on whole lines. -/
lemma isInteger_of_mem_definitions {filePath : Text} {lineCount : Number}
    (hcount : lineCount.isInteger = true) {declarations : List Declaration}
    (hdeclarations : ∀ d ∈ declarations,
      d.startLine.isInteger = true ∧ d.endLine.isInteger = true)
    {calls : List CallSite} {d : Definition}
    (h : d ∈ definitions filePath lineCount declarations calls) :
    d.startLine.isInteger = true ∧ d.endLine.isInteger = true := by
  rcases range_of_mem_definitions h with heq | ⟨e, he, heq⟩
  · have hfirst : d.startLine = 1 := congrArg LineRange.first heq
    have hlast : d.endLine = max 1 lineCount := congrArg LineRange.last heq
    rw [hfirst, hlast, ← lastLine_eq_max]
    exact ⟨rfl, isInteger_lastLine hcount⟩
  · have hfirst : e.startLine = d.startLine := congrArg LineRange.first heq
    have hlast : e.endLine = d.endLine := congrArg LineRange.last heq
    rw [← hfirst, ← hlast]
    exact isInteger_of_mem_settle hcount hdeclarations he

/-- A definition for the module comes first. -/
lemma eq_zero_of_isModule {filePath : Text} {lineCount : Number}
    {declarations : List Declaration} {calls : List CallSite} {i : Nat} {d : Definition}
    (hd : (definitions filePath lineCount declarations calls)[i]? = some d)
    (hmodule : d.isModule = true) : i = 0 := by
  have hlen : (moduleDefinitions filePath lineCount (settle lineCount declarations) calls).length
      ≤ 1 := by
    unfold moduleDefinitions
    split
    · exact Nat.zero_le 1
    · exact Nat.le_refl 1
  -- Behind the first place there are only definitions of declarations.
  rw [definitions_eq] at hd
  by_contra hi
  rw [List.getElem?_append_right (by omega)] at hd
  obtain ⟨p, -, rfl⟩ := List.mem_map.mp (List.mem_of_getElem? hd)
  cases hmodule

/-- What holds of the ranges of declarations that are kept, and of a range and one inside it, holds
of the ranges of definitions. -/
lemma definitions_pairwise {S : LineRange → LineRange → Prop} {filePath : Text}
    {lineCount : Number} {declarations : List Declaration} {calls : List CallSite}
    (hcontains : ∀ {outer inner : LineRange}, outer.Contains inner → S outer inner)
    (hkept : (settle lineCount declarations).Pairwise fun a b => S a.range b.range) :
    (definitions filePath lineCount declarations calls).Pairwise fun a b => S a.range b.range := by
  obtain ⟨whole, hwhole, hranges⟩ := map_range_definitions filePath lineCount declarations calls
  have hsettled := List.pairwise_map.mpr hkept
  have hall : ((definitions filePath lineCount declarations calls).map
      Definition.range).Pairwise S := by
    rw [hranges]
    rcases hwhole with rfl | rfl
    · exact hsettled
    · refine List.pairwise_cons.mpr ⟨?_, hsettled⟩
      intro r hr
      obtain ⟨d, hd, rfl⟩ := List.mem_map.mp hr
      exact hcontains (whole_contains (within_settle hd))
  exact List.pairwise_map.mp hall

lemma definitions_pairwise_precedes (filePath : Text) (lineCount : Number)
    (declarations : List Declaration) (calls : List CallSite) :
    (definitions filePath lineCount declarations calls).Pairwise fun a b =>
      a.range.Precedes b.range :=
  definitions_pairwise Contains.precedes (settle_pairwise_precedes lineCount declarations)

lemma definitions_pairwise_fits (filePath : Text) (lineCount : Number)
    (declarations : List Declaration) (calls : List CallSite) :
    (definitions filePath lineCount declarations calls).Pairwise fun a b =>
      a.range.Fits b.range :=
  definitions_pairwise (fun h => .inr (.inl h)) (settle_pairwise_fits lineCount declarations)

/-- The definitions of a file lie in it, stand in its order, and each two of them lie apart or one
contains the other, whatever lines the declarations were given with. -/
theorem definitions_nest (filePath : Text) (lineCount : Number)
    (declarations : List Declaration) (calls : List CallSite) :
    let ds := definitions filePath lineCount declarations calls
    (∀ d ∈ ds, 1 ≤ d.startLine ∧ d.startLine ≤ d.endLine ∧ d.endLine ≤ max 1 lineCount)
    ∧ (ds.Pairwise fun a b => a.range.Apart b.range ∨ a.range.Contains b.range
        ∨ b.range.Contains a.range)
    ∧ (ds.Pairwise fun a b => a.startLine < b.startLine
        ∨ a.startLine = b.startLine ∧ b.endLine ≤ a.endLine)
    ∧ ∀ i d, ds[i]? = some d → d.isModule = true → i = 0 := by
  intro ds
  refine ⟨?_, definitions_pairwise_fits _ _ _ _, definitions_pairwise_precedes _ _ _ _,
    fun i d hd => eq_zero_of_isModule hd⟩
  intro d hd
  obtain ⟨whole, hwhole, hranges⟩ :=
    map_range_definitions filePath lineCount declarations calls
  have hr : d.range ∈ whole ++ (settle lineCount declarations).map Declaration.range := by
    rw [← hranges]
    exact List.mem_map_of_mem hd
  rcases List.mem_append.mp hr with hr | hr
  · have hmax : (1 : Number) ≤ max 1 lineCount := le_max_left 1 lineCount
    have heq : d.range = ⟨1, max 1 lineCount⟩ := by
      rcases hwhole with rfl | rfl
      · cases hr
      · exact List.mem_singleton.mp hr
    have hfirst : d.startLine = 1 := congrArg LineRange.first heq
    have hlast : d.endLine = max 1 lineCount := congrArg LineRange.last heq
    rw [hfirst, hlast]
    exact ⟨le_rfl, hmax, le_rfl⟩
  · obtain ⟨e, he, heq⟩ := List.mem_map.mp hr
    have hwithin := within_settle he
    rw [heq] at hwithin
    exact hwithin

/-- A definition without its calls. -/
def bare (d : Definition) : Definition := { d with calls := [] }

/-- All definitions but the one for the module are of declarations. -/
lemma filter_definitions (filePath : Text) (lineCount : Number) (declarations : List Declaration)
    (calls : List CallSite) :
    ((definitions filePath lineCount declarations calls).filter fun d => !d.isModule)
      = declaredDefinitions filePath (settle lineCount declarations) calls := by
  rw [definitions_eq, List.filter_append, List.filter_eq_nil_iff.mpr, List.nil_append,
    List.filter_eq_self.mpr]
  · intro d hd
    obtain ⟨p, -, rfl⟩ := List.mem_map.mp hd
    rfl
  · intro d hd
    rw [moduleDefinitions] at hd
    split at hd
    · cases hd
    · rw [List.mem_singleton.mp hd]
      exact Bool.false_ne_true

/-- The definition for the module, if there is one, is the only one of its kind. -/
lemma filter_isModule_definitions (filePath : Text) (lineCount : Number)
    (declarations : List Declaration) (calls : List CallSite) :
    (definitions filePath lineCount declarations calls).filter Definition.isModule
      = moduleDefinitions filePath lineCount (settle lineCount declarations) calls := by
  rw [definitions_eq, List.filter_append, List.filter_eq_self.mpr, List.filter_eq_nil_iff.mpr,
    List.append_nil]
  · intro d hd
    obtain ⟨p, -, rfl⟩ := List.mem_map.mp hd
    exact Bool.false_ne_true
  · intro d hd
    rw [moduleDefinitions] at hd
    split at hd
    · cases hd
    · rw [List.mem_singleton.mp hd]
      rfl

lemma map_bare_declaredDefinitions (filePath : Text) (kept : List Declaration)
    (calls : List CallSite) :
    (declaredDefinitions filePath kept calls).map bare
      = kept.map fun d => define filePath d [] := by
  conv_rhs => rw [← List.zipIdx_map_fst 0 kept]
  rw [declaredDefinitions, List.map_map, List.map_map]
  rfl

lemma settle_eq_keepFitting (lineCount : Number) (ds : List Declaration) :
    settle lineCount ds
      = keepFitting [] (order (firstsBy identity (ds.map (clampDeclaration lineCount)))) := by
  rw [settle, dropRepeated_eq]
  apply dropOverlaps_eq_keepFitting (openAmong_nil _) (order_pairwise _)
  intro d hd
  rw [order, List.mem_mergeSort, ← dropRepeated_eq] at hd
  obtain ⟨e, -, rfl⟩ := List.mem_map.mp ((dropRepeated_sublist _).mem hd)
  exact (within_clampDeclaration lineCount e).2.1

/-- The definitions of a file besides that of the module are its declarations, clamped to the
file, without repetitions and in the order of the file, but for those that partially overlap one
that was kept before. Where no two declarations overlap, the repetitions alone are missing. -/
theorem declarations_kept (filePath : Text) (lineCount : Number) (declarations : List Declaration)
    (calls : List CallSite) :
    let clamped := declarations.map (clampDeclaration lineCount)
    let entries := order (firstsBy identity clamped)
    let kept := ((definitions filePath lineCount declarations calls).filter
      fun d => !d.isModule).map bare
    (entries.Pairwise fun a b => a.startLine < b.startLine
        ∨ a.startLine = b.startLine ∧ b.endLine ≤ a.endLine)
    ∧ (∀ r, (entries.filter fun d => d.range = r)
        = (firstsBy identity clamped).filter fun d => d.range = r)
    ∧ (∀ a ∈ entries, ∀ b ∈ entries, a.range.overlaps b.range = true
        ↔ (∃ line, a.range.covers line = true ∧ b.range.covers line = true)
          ∧ ¬a.range.Contains b.range ∧ ¬b.range.Contains a.range)
    ∧ kept = (keepFitting [] entries).map (fun d => define filePath d [])
    ∧ ((clamped.Pairwise fun a b => a.range.Fits b.range) →
        kept = entries.map fun d => define filePath d []) := by
  intro clamped entries kept
  have hkept : kept = (keepFitting [] entries).map fun d => define filePath d [] := by
    rw [← settle_eq_keepFitting, ← map_bare_declaredDefinitions, ← filter_definitions]
  have hclamped : ∀ {d}, d ∈ entries → d ∈ clamped := by
    intro d hd
    have hfirst : d ∈ firstsBy identity clamped := List.mem_mergeSort.mp hd
    exact (dropRepeated_sublist _).mem (dropRepeated_eq clamped ▸ hfirst)
  have hlines : ∀ d ∈ entries, d.range.first ≤ d.range.last := by
    intro d hd
    obtain ⟨e, -, rfl⟩ := List.mem_map.mp (hclamped hd)
    exact (within_clampDeclaration lineCount e).2.1
  refine ⟨order_pairwise _, filter_order _, ?_, hkept, ?_⟩
  · intro a ha b hb
    rw [exists_covers_iff (hlines a ha) (hlines b hb), overlaps_iff, Fits, Apart]
    simp only [not_or, not_lt]
    tauto
  · intro hfits
    have hfirsts : (firstsBy identity clamped).Pairwise fun a b => a.range.Fits b.range :=
      hfits.sublist (dropRepeated_eq clamped ▸ dropRepeated_sublist clamped)
    have hentries : entries.Pairwise fun a b => a.range.Fits b.range :=
      (List.mergeSort_perm _ _).symm.pairwise hfirsts fun h => h.symm
    rw [hkept, keepFitting_of_pairwise (fun k hk => (List.not_mem_nil hk).elim) hentries]

end Assembly

end CallAtlas
