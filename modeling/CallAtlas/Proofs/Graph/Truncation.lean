import CallAtlas.Graph.CallTree
import CallAtlas.Proofs.Graph.Bounds

/-!
# Where a listing ends

A bound on the number of entries cuts a call stack at one caller, that of the first entry without a
place. Callers are followed in the order of their numbers, so the callers before this one have all
their callees, and it and all later ones are marked: the mark says exactly whose calls are missing
or were not looked at.
-/

namespace CallAtlas.CallStack

/-! ## What a bound leaves of a call stack -/

/-- A callee of an entry stands in the whole listing and has no place in the one that was cut. -/
def IsCutShort (whole s : CallStack) (id : ℕ) : Prop :=
  ∃ c ∈ childrenOf whole.entries id, c.id ∉ s.entries.map CallStackEntry.id

/-- The calls of an entry were not looked at: the listing ended at an earlier caller. -/
def IsNeverBegun (whole s : CallStack) (id : ℕ) : Prop :=
  ∃ caller < id, IsCutShort whole s caller

/-- What a bound on the number of entries leaves of a whole call stack. -/
structure IsCut (whole : CallStack) (maxNodes : ℕ) (s : CallStack) : Prop where
  /-- A bound that is large enough leaves everything. -/
  eq_of_le : whole.entries.length ≤ maxNodes → s = whole
  truncated_iff : s.truncated = true ↔ maxNodes < whole.entries.length
  length_eq : s.truncated = true → s.entries.length = maxNodes
  bare_prefix : s.entries.map CallStackEntry.bare <+: whole.entries.map CallStackEntry.bare
  /-- An expanded entry has all its callees. -/
  children_of_expanded : ∀ e ∈ s.entries, e.status = .expanded →
    (childrenOf s.entries e.id).map CallStackEntry.bare
      = (childrenOf whole.entries e.id).map CallStackEntry.bare
  /-- The marked entries are those that were to be followed and were not followed to their end. -/
  status_eq_truncated_iff : ∀ e ∈ s.entries, e.status = .truncated ↔
    { e with status := .expanded } ∈ whole.entries
      ∧ (IsCutShort whole s e.id ∨ IsNeverBegun whole s e.id)
  /-- Only the entry at which the listing ended is marked and has callees. -/
  eq_of_children : ∀ e ∈ s.entries, ∀ e' ∈ s.entries, e.status = .truncated →
    e'.status = .truncated → childrenOf s.entries e.id ≠ [] → childrenOf s.entries e'.id ≠ [] →
    e = e'
  /-- Entries that nothing follows have the status that they have in the whole listing. -/
  mem_of_leaf : ∀ e ∈ s.entries,
    e.status = .cyclic ∨ e.status = .unresolved ∨ e.status = .depthLimit → e ∈ whole.entries

/-! ## Entries of frames -/

/-- What the mark does to a status, and to nothing else. -/
lemma markCut_cases (p : ℕ) (e : CallStackEntry) :
    e.status = .expanded ∧ p ≤ e.id ∧ markCut (some p) e = { e with status := .truncated }
      ∨ ¬ (e.status = .expanded ∧ p ≤ e.id) ∧ markCut (some p) e = e := by
  by_cases h : e.status = .expanded ∧ p ≤ e.id
  · exact .inl ⟨h.1, h.2, if_pos h⟩
  · exact .inr ⟨h, if_neg h⟩

/-- The callees of an entry are those of its frame. -/
lemma childrenOf_map {g : CallStackEntry → CallStackEntry}
    (hg : ∀ e, (g e).parentId = e.parentId) (fs : List Frame) (id : ℕ) :
    childrenOf (fs.map fun f => g f.entry) id
      = (fs.filter fun f => f.entry.parentId = some id).map fun f => g f.entry := by
  rw [childrenOf, List.filter_map]
  simp only [Function.comp_def, hg]

namespace Scope

variable {s : Scope} {root : Definition}

/-- No frame is truncated before a listing ends. -/
lemma status_ne_truncated {f : Frame} (hf : f ∈ s.frames root) : f.entry.status ≠ .truncated := by
  rcases eq_root_or_exists_caller hf with rfl | ⟨caller, -, -, c, -, hframe⟩
  · rw [rootFrame, rootEntry]
    split <;> exact CallStackStatus.noConfusion
  · rw [hframe]
    change s.statusOf (fun key => key ∈ caller.path) (caller.entry.depth + 1) c ≠ .truncated
    unfold statusOf
    split
    · exact CallStackStatus.noConfusion
    · split
      · exact CallStackStatus.noConfusion
      · split <;> exact CallStackStatus.noConfusion

/-- The call stack of a definition that nothing cuts. -/
def whole (s : Scope) (root : Definition) : CallStack :=
  { entries := (s.frames root).map Frame.entry, maxDepth := s.maxDepth, truncated := false }

/-- With room for all frames nothing is cut. -/
lemma expand_of_le {maxNodes : ℕ} (hpos : 1 ≤ maxNodes)
    (h : (s.frames root).length ≤ maxNodes) : s.expand maxNodes root = s.whole root := by
  rw [s.expand_eq hpos, cutOf, List.take_of_length_le h, List.getElem?_eq_none h]
  rfl

/-- The entries of a listing that ends at a caller. -/
def cutEntries (s : Scope) (root : Definition) (maxNodes p : ℕ) : List CallStackEntry :=
  ((s.frames root).take maxNodes).map fun f => markCut (some p) f.entry

/-- With less room the listing ends at the caller of the first frame that has no place. -/
lemma exists_expand_of_lt {maxNodes : ℕ} (hpos : 1 ≤ maxNodes)
    (h : maxNodes < (s.frames root).length) :
    ∃ g ∈ s.frames root, g.entry.id = maxNodes ∧ ∃ p, g.entry.parentId = some p
      ∧ s.expand maxNodes root = ⟨s.cutEntries root maxNodes p, s.maxDepth, true⟩ := by
  have hid := id_getElem_frames h
  refine ⟨(s.frames root)[maxNodes], List.getElem_mem h, hid, ?_⟩
  have hcut : ∃ p, (s.frames root)[maxNodes].entry.parentId = some p := by
    rcases eq_root_or_exists_caller (List.getElem_mem h) with hroot | ⟨caller, -, -, c, -, hframe⟩
    · rw [hroot] at hid
      exact absurd hid.symm (Nat.ne_of_gt hpos)
    · rw [hframe]
      exact ⟨_, rfl⟩
  obtain ⟨p, hp⟩ := hcut
  refine ⟨p, hp, ?_⟩
  rw [s.expand_eq hpos, cutOf, List.getElem?_eq_getElem h, Option.bind_some, hp]
  rfl

/-! ## The caller at which a listing ends -/

section

-- `g` is the first frame without a place, and `p` its caller.
variable {g : Frame} {p : ℕ}

lemma mem_cutEntries {maxNodes : ℕ} {e : CallStackEntry} :
    e ∈ s.cutEntries root maxNodes p ↔
      ∃ f ∈ s.frames root, f.entry.id < maxNodes ∧ e = markCut (some p) f.entry := by
  rw [cutEntries, List.mem_map]
  simp only [mem_take_frames, and_assoc, eq_comm]

lemma mem_map_id_cutEntries (hg : g ∈ s.frames root) (id : ℕ) :
    id ∈ (s.cutEntries root g.entry.id p).map CallStackEntry.id ↔ id < g.entry.id := by
  obtain ⟨i, hi, rfl⟩ := List.mem_iff_getElem.mp hg
  have hids : (s.cutEntries root i p).map CallStackEntry.id
      = ((s.frames root).map fun f => f.entry.id).take i := by
    rw [cutEntries, List.map_map, List.map_take]
    simp only [Function.comp_def, id_markCut]
  rw [id_getElem_frames hi, hids, map_id_frames, List.take_range, List.mem_range]
  omega

/-- The calls of an entry are missing or were not looked at just if the listing ended at it or
before it. -/
lemma isCutShort_or_isNeverBegun_iff (hg : g ∈ s.frames root) (hp : g.entry.parentId = some p)
    {t : CallStack} (ht : t.entries = s.cutEntries root g.entry.id p) (id : ℕ) :
    IsCutShort (s.whole root) t id ∨ IsNeverBegun (s.whole root) t id ↔ p ≤ id := by
  have hshort : ∀ q, IsCutShort (s.whole root) t q ↔
      ∃ f ∈ s.frames root, f.entry.parentId = some q ∧ g.entry.id ≤ f.entry.id := by
    intro q
    have hchildren : childrenOf (s.whole root).entries q = _ :=
      childrenOf_map (fun _ => rfl) (s.frames root) q
    simp only [IsCutShort, hchildren, ht, mem_map_id_cutEntries hg, List.mem_map, List.mem_filter,
      decide_eq_true_eq, not_lt]
    constructor
    · rintro ⟨c, ⟨f, ⟨hf, hq⟩, rfl⟩, hle⟩
      exact ⟨f, hf, hq, hle⟩
    · rintro ⟨f, hf, hq, hle⟩
      exact ⟨f.entry, ⟨f, ⟨hf, hq⟩, rfl⟩, hle⟩
  have hle : ∀ q, IsCutShort (s.whole root) t q → p ≤ q := by
    intro q hq
    obtain ⟨f, hf, hparent, hid⟩ := (hshort q).mp hq
    exact parent_le_parent hg hf hid hp hparent
  have hcut : IsCutShort (s.whole root) t p := (hshort p).mpr ⟨g, hg, hp, Nat.le_refl _⟩
  constructor
  · rintro (h | ⟨q, hlt, h⟩)
    · exact hle id h
    · exact (hle q h).trans hlt.le
  · intro h
    rcases Nat.lt_or_eq_of_le h with hlt | rfl
    · exact .inr ⟨p, hlt, hcut⟩
    · exact .inl hcut

/-- A caller before the one at which the listing ended has all its callees. -/
lemma map_bare_childrenOf_cutEntries (hg : g ∈ s.frames root) (hp : g.entry.parentId = some p)
    {id : ℕ} (hid : id < p) :
    (childrenOf (s.cutEntries root g.entry.id p) id).map CallStackEntry.bare
      = (childrenOf (s.whole root).entries id).map CallStackEntry.bare := by
  have hnone : ((s.frames root).drop g.entry.id).filter (fun f => f.entry.parentId = some id)
      = [] := by
    rw [List.filter_eq_nil_iff]
    intro f hf hparent
    obtain ⟨i, hi, rfl⟩ := List.mem_iff_getElem.mp hf
    rw [List.length_drop] at hi
    rw [List.getElem_drop, decide_eq_true_eq] at hparent
    have hle := parent_le_parent hg (List.getElem_mem _)
      (by rw [id_getElem_frames (by omega)]; omega) hp hparent
    omega
  have hwhole : childrenOf (s.whole root).entries id = _ :=
    childrenOf_map (fun _ => rfl) (s.frames root) id
  rw [hwhole, cutEntries, childrenOf_map (parentId_markCut (some p)), List.map_map, List.map_map,
    ← List.take_append_drop g.entry.id (s.frames root), List.filter_append, List.take_append_drop,
    hnone, List.append_nil]
  simp only [Function.comp_def, bare_markCut]

/-- An entry that has callees is not behind the one at which the listing ended. -/
lemma le_of_childrenOf_cutEntries (hg : g ∈ s.frames root) (hp : g.entry.parentId = some p)
    {id : ℕ} (h : childrenOf (s.cutEntries root g.entry.id p) id ≠ []) : id ≤ p := by
  obtain ⟨c, hc⟩ := List.exists_mem_of_ne_nil _ h
  obtain ⟨hc, hparent⟩ := List.mem_filter.mp hc
  obtain ⟨f, hf, hlt, rfl⟩ := mem_cutEntries.mp hc
  rw [parentId_markCut, decide_eq_true_eq] at hparent
  exact parent_le_parent hf hg hlt.le hparent hp

/-- An entry of the listing is marked, and then it was to be followed and comes at `p` or behind it,
or it is the entry of its frame. -/
lemma cases_of_mem_cutEntries {maxNodes : ℕ} {e : CallStackEntry}
    (he : e ∈ s.cutEntries root maxNodes p) :
    ∃ f ∈ s.frames root, f.entry.id = e.id ∧
      (f.entry.status = .expanded ∧ p ≤ f.entry.id ∧ e = { f.entry with status := .truncated }
        ∨ ¬ (f.entry.status = .expanded ∧ p ≤ f.entry.id) ∧ e = f.entry) := by
  obtain ⟨f, hf, -, rfl⟩ := mem_cutEntries.mp he
  exact ⟨f, hf, (id_markCut _ _).symm, markCut_cases p f.entry⟩

/-- A marked entry comes at `p` or behind it. -/
lemma exists_frame_of_truncated {maxNodes : ℕ} {e : CallStackEntry}
    (he : e ∈ s.cutEntries root maxNodes p) (hstatus : e.status = .truncated) :
    ∃ f ∈ s.frames root, f.entry.id = e.id ∧ p ≤ e.id
      ∧ e = { f.entry with status := .truncated } := by
  obtain ⟨f, hf, hid, ⟨-, hle, rfl⟩ | ⟨-, rfl⟩⟩ := cases_of_mem_cutEntries he
  · exact ⟨f, hf, rfl, hle, rfl⟩
  · exact absurd hstatus (status_ne_truncated hf)

/-- The marked entries are those that are to be followed in the whole listing and come at `p` or
behind it. -/
lemma status_eq_truncated_iff {maxNodes : ℕ} {e : CallStackEntry}
    (he : e ∈ s.cutEntries root maxNodes p) :
    e.status = .truncated ↔
      { e with status := .expanded } ∈ (s.whole root).entries ∧ p ≤ e.id := by
  obtain ⟨f, hf, -, ⟨hopen, hle, rfl⟩ | ⟨hearly, rfl⟩⟩ := cases_of_mem_cutEntries he
  · refine iff_of_true rfl ⟨?_, hle⟩
    rw [← hopen]
    exact List.mem_map_of_mem hf
  · refine iff_of_false (status_ne_truncated hf) ?_
    rintro ⟨hmem, hle⟩
    obtain ⟨f', hf', heq⟩ := List.mem_map.mp hmem
    obtain rfl := eq_of_id_eq hf' hf (by rw [heq])
    exact hearly ⟨by rw [heq], hle⟩

/-- An entry that is expanded comes before `p`. -/
lemma lt_of_expanded {maxNodes : ℕ} {e : CallStackEntry}
    (he : e ∈ s.cutEntries root maxNodes p) (hstatus : e.status = .expanded) : e.id < p := by
  obtain ⟨f, hf, -, ⟨-, -, rfl⟩ | ⟨hearly, rfl⟩⟩ := cases_of_mem_cutEntries he
  · cases hstatus
  · by_contra hle
    exact hearly ⟨hstatus, Nat.not_lt.mp hle⟩

/-- Only the entry at which the listing ended is marked and has callees. -/
lemma id_eq_of_truncated (hg : g ∈ s.frames root) (hp : g.entry.parentId = some p)
    {e : CallStackEntry} (he : e ∈ s.cutEntries root g.entry.id p) (hstatus : e.status = .truncated)
    (hchildren : childrenOf (s.cutEntries root g.entry.id p) e.id ≠ []) : e.id = p := by
  obtain ⟨f, -, -, hle, -⟩ := exists_frame_of_truncated he hstatus
  exact Nat.le_antisymm (le_of_childrenOf_cutEntries hg hp hchildren) hle

lemma map_bare_cutEntries (s : Scope) (root : Definition) (maxNodes p : ℕ) :
    (s.cutEntries root maxNodes p).map CallStackEntry.bare
      = ((s.whole root).entries.map CallStackEntry.bare).take maxNodes := by
  rw [cutEntries, whole, List.map_map, List.map_map, List.map_take]
  simp only [Function.comp_def, bare_markCut]

/-- A listing that ends at the caller of a frame is what a bound leaves of the whole one. -/
lemma isCut_cutEntries (hg : g ∈ s.frames root) (hp : g.entry.parentId = some p) :
    (s.whole root).IsCut g.entry.id ⟨s.cutEntries root g.entry.id p, s.maxDepth, true⟩ := by
  have hlt : g.entry.id < (s.frames root).length := by
    obtain ⟨i, hi, rfl⟩ := List.mem_iff_getElem.mp hg
    rwa [id_getElem_frames hi]
  have hlength : (s.whole root).entries.length = (s.frames root).length := List.length_map _
  refine
    { eq_of_le := fun h => by omega
      truncated_iff := ?_
      length_eq := fun _ => ?_
      bare_prefix := ?_
      children_of_expanded := fun e he hstatus =>
        map_bare_childrenOf_cutEntries hg hp (lt_of_expanded he hstatus)
      status_eq_truncated_iff := ?_
      eq_of_children := ?_
      mem_of_leaf := ?_ }
  · rw [hlength]
    exact ⟨fun _ => hlt, fun _ => rfl⟩
  · rw [cutEntries, List.length_map, List.length_take]
    omega
  · rw [map_bare_cutEntries]
    exact List.take_prefix _ _
  · intro e he
    rw [isCutShort_or_isNeverBegun_iff hg hp rfl]
    exact status_eq_truncated_iff he
  · intro e he e' he' hstatus hstatus' hchildren hchildren'
    have heq := id_eq_of_truncated hg hp he hstatus hchildren
    have heq' := id_eq_of_truncated hg hp he' hstatus' hchildren'
    obtain ⟨f, hf, hid, -, rfl⟩ := exists_frame_of_truncated he hstatus
    obtain ⟨f', hf', hid', -, rfl⟩ := exists_frame_of_truncated he' hstatus'
    rw [eq_of_id_eq hf hf' (heq.trans heq'.symm)]
  · intro e he hleaf
    obtain ⟨f, hf, -, ⟨-, -, rfl⟩ | ⟨-, rfl⟩⟩ := cases_of_mem_cutEntries he
    · rcases hleaf with h | h | h <;> cases h
    · exact List.mem_map_of_mem hf

end

/-- A whole call stack is what a bound leaves of it that is large enough. -/
lemma isCut_whole {maxNodes : ℕ} (h : (s.frames root).length ≤ maxNodes) :
    (s.whole root).IsCut maxNodes (s.whole root) := by
  have hlength : (s.whole root).entries.length = (s.frames root).length := List.length_map _
  have hstatus : ∀ e ∈ (s.whole root).entries, e.status ≠ .truncated := by
    intro e he
    obtain ⟨f, hf, rfl⟩ := List.mem_map.mp he
    exact status_ne_truncated hf
  have hshort : ∀ id, ¬ IsCutShort (s.whole root) (s.whole root) id := by
    rintro id ⟨c, hc, hid⟩
    exact hid (List.mem_map_of_mem (List.mem_of_mem_filter hc))
  refine
    { eq_of_le := fun _ => rfl
      truncated_iff := ?_
      length_eq := fun h => Bool.noConfusion h
      bare_prefix := List.prefix_rfl
      children_of_expanded := fun _ _ _ => rfl
      status_eq_truncated_iff := ?_
      eq_of_children := fun e he _ _ ht => absurd ht (hstatus e he)
      mem_of_leaf := fun _ he _ => he }
  · rw [hlength]
    simp only [whole, Bool.false_eq_true, false_iff]
    omega
  · intro e he
    refine iff_of_false (hstatus e he) ?_
    rintro ⟨-, h | ⟨q, -, h⟩⟩
    · exact hshort e.id h
    · exact hshort q h

/-- A call stack is what its bound leaves of the whole one. -/
theorem isCut_expand {maxNodes : ℕ} (hpos : 1 ≤ maxNodes) (root : Definition) :
    (s.whole root).IsCut maxNodes (s.expand maxNodes root) := by
  rcases Nat.lt_or_ge maxNodes (s.frames root).length with h | h
  · obtain ⟨g, hg, rfl, p, hp, hexpand⟩ := exists_expand_of_lt hpos h
    rw [hexpand]
    exact isCut_cutEntries hg hp
  · rw [expand_of_le hpos h]
    exact isCut_whole h

end Scope

/-! ## Requests -/

/-- Requests for the calls at one line that differ in their bounds on the number of entries are
answered by what these bounds leave of one whole call stack, or all find no definition there. -/
theorem resolveJob_isCut {σ : Type} (m : RepoModel) (filePath : Text) (line : Number)
    {maxDepth : ℕ} (hdepth : maxDepth ≤ 64) :
    (∃ e, ∀ (maxNodes : ℕ) (session : Session σ), 1 ≤ maxNodes →
      ((resolveJob m filePath line maxDepth maxNodes).run session).1 = .ok (.error e))
    ∨ ∃ whole : CallStack, ∀ (maxNodes : ℕ) (session : Session σ), 1 ≤ maxNodes →
      ∃ s, ((resolveJob m filePath line maxDepth maxNodes).run session).1 = .ok (.ok s)
        ∧ whole.IsCut maxNodes s := by
  cases hroot : m.enclosing? (Path.normalize filePath) line with
  | none =>
    refine .inl ⟨.noEnclosingDefinition (Path.normalize filePath) line, ?_⟩
    intro maxNodes session hpos
    rw [outcome_resolveJob m filePath line hdepth hpos, resolveWithin, hroot]
  | some root =>
    refine .inr ⟨(Scope.of m maxDepth).whole root, ?_⟩
    intro maxNodes session hpos
    refine ⟨(Scope.of m maxDepth).expand maxNodes root, ?_, Scope.isCut_expand hpos root⟩
    rw [outcome_resolveJob m filePath line hdepth hpos, resolveWithin, hroot]

/-- Three of the four entries for the calls of `ping`: the calls of `pong` were not looked at. -/
theorem resolveJob_isCut_pingPong : 3 ≤ 64 ∧ ∃ whole s : CallStack,
    ((resolveJob pingPong "./a.py" 1 (3 : ℕ) (3 : ℕ)).run
      { host := default, world := () }).1 = .ok (.ok s)
    ∧ s.truncated = true
    ∧ s.entries.map CallStackEntry.status = [.expanded, .truncated, .unresolved]
    ∧ whole.IsCut 3 s := by
  have hdepth : 3 ≤ 64 := by decide
  have htest : (resolveWithin pingPong (Path.normalize "./a.py") 1 3 3).toOption.any fun s =>
      s.truncated
        && s.entries.map CallStackEntry.status == [.expanded, .truncated, .unresolved] := by
    decide +kernel
  obtain ⟨s, hs, hsaid⟩ := exists_of_any_resolveWithin hdepth (by decide) htest
    { host := default, world := () }
  rw [Bool.and_eq_true, beq_iff_eq] at hsaid
  refine ⟨hdepth, ?_⟩
  rcases resolveJob_isCut pingPong "./a.py" 1 hdepth with ⟨e, he⟩ | ⟨whole, hwhole⟩
  · rw [he 3 { host := default, world := () } (by decide)] at hs
    cases hs
  · obtain ⟨s', hs', hcut⟩ := hwhole 3 { host := default, world := () } (by decide)
    obtain rfl : s = s' := by
      rw [hs] at hs'
      exact Except.ok.inj (Except.ok.inj hs')
    exact ⟨whole, s, hs, hsaid.1, hsaid.2, hcut⟩

end CallAtlas.CallStack
