import CallAtlas.Proofs.Graph.Unfolding
import CallAtlas.Proofs.Graph.Expansion
import CallAtlas.Proofs.Graph.SymbolIndex
import CallAtlas.Session.CallStack

/-!
# A call stack lists an unfolding

The entries of a call stack that is not truncated are the listing of the call tree. The proof goes
level by level: each level of frames stands for the level of the unfolding, frame by frame
(`Stands`), and following the calls of a level keeps this (`stands_framesBelow`). The frames carry
the keys above them, which the unfolding gets from its recursion.

One caller tells its callees apart by one text each (`Callee.mark`). Two marks of different kinds
agree only if a file path holds the unit 0 (`key_ne_mark`).
-/

namespace CallAtlas.CallStack

open CallUnfolding

/-! ## The callees of one caller -/

/-- A callee as a node. -/
def Callee.node (c : Callee) : CallNode :=
  ⟨c.definition, some c.site, c.site.callee, c.candidateCount⟩

/-- A frame as a node. -/
def Frame.node (f : Frame) : CallNode :=
  ⟨f.entry.definition, f.entry.callSite, f.entry.calleeName, f.entry.candidateCount⟩

/-- The key of a definition in a file without the unit 0 is no mark of a name. -/
lemma key_ne_mark {d : Definition} (hd : (0 : CodeUnit) ∉ d.filePath) (name : Text) :
    d.key ≠ Text.ofString "unresolved" ++ 0 :: name := by
  intro h
  -- up to the first unit 0 the mark is one word, while the key has a colon there
  have hword : ∀ u ∈ Text.ofString "unresolved", decide (u ≠ 0) = true :=
    List.all_eq_true.mp (by decide)
  have hmark : ((Text.ofString "unresolved" ++ 0 :: name).takeWhile fun u => u ≠ 0)
      = Text.ofString "unresolved" := by
    rw [List.takeWhile_append_of_pos hword]
    simp
  have hkey : Text.unit ':' ∈ d.key.takeWhile fun u => u ≠ 0 := by
    simp only [Definition.key, List.cons_append, List.append_assoc]
    rw [List.takeWhile_append_of_pos (by simpa using fun u hu => ne_of_mem_of_not_mem hu hd),
      List.takeWhile_cons_of_pos (by decide)]
    exact List.mem_append_right _ List.mem_cons_self
  rw [h, hmark] at hkey
  revert hkey
  decide

/-- Two callees have one mark exactly if they have one identity. -/
lemma mark_eq_mark_iff {c c' : Callee}
    (hc : ∀ d, c.definition = some d → (0 : CodeUnit) ∉ d.filePath)
    (hc' : ∀ d, c'.definition = some d → (0 : CodeUnit) ∉ d.filePath) :
    c.mark = c'.mark ↔ c.node.identity = c'.node.identity := by
  rw [Callee.mark, Callee.mark, CallNode.identity, CallNode.identity, Callee.node, Callee.node]
  cases hd : c.definition with
  | none =>
    cases hd' : c'.definition with
    | none => simp
    | some d' => simpa using (key_ne_mark (hc' d' hd') c.site.callee).symm
  | some d =>
    cases hd' : c'.definition with
    | none => simpa using key_ne_mark (hc d hd) c'.site.callee
    | some d' => simp

variable {m : RepoModel} {maxDepth : ℕ}

/-- What a call site leads to, as nodes. -/
lemma map_node_calleesAt (language : Option Text) (site : CallSite) :
    ((Scope.of m maxDepth).calleesAt language site).map Callee.node
      = m.candidatesAt language site := by
  rw [Scope.calleesAt, RepoModel.candidatesAt, Scope.of]
  dsimp only
  split
  · next h => simp [h, Callee.node]
  · next h =>
    have hne : ((SymbolIndex.build m).resolve site.callee language).isEmpty = false := by
      rw [List.isEmpty_eq_false_iff]
      exact h
    rw [hne, List.map_map]
    rfl

/-- What a call may lead to is in the model. -/
lemma mem_definitions_of_mem_calleesAt {language : Option Text} {site : CallSite} {c : Callee}
    (hc : c ∈ (Scope.of m maxDepth).calleesAt language site) {d : Definition}
    (hd : c.definition = some d) : d ∈ m.definitions := by
  rw [Scope.calleesAt] at hc
  split at hc
  · rw [List.mem_singleton] at hc
    rw [hc] at hd
    cases hd
  · obtain ⟨d', hd', rfl⟩ := List.mem_map.mp hc
    cases hd
    exact SymbolIndex.mem_definitions_of_mem_resolve hd'

/-- The callees of a definition are those of the unfolding. -/
lemma map_node_callees (hpaths : ∀ d ∈ m.definitions, (0 : CodeUnit) ∉ d.filePath)
    (d : Definition) :
    ((Scope.of m maxDepth).callees d).map Callee.node = m.calleesOf d := by
  have hzero : ∀ c ∈ d.calls.flatMap ((Scope.of m maxDepth).calleesAt
      ((Scope.of m maxDepth).languageOf? d)), ∀ e, c.definition = some e →
        (0 : CodeUnit) ∉ e.filePath := by
    intro c hc e he
    obtain ⟨site, -, hc⟩ := List.mem_flatMap.mp hc
    exact hpaths e (mem_definitions_of_mem_calleesAt hc he)
  rw [Scope.callees, distinctCallees_eq, ← firstsBy,
    firstsBy_congr fun c hc c' hc' => mark_eq_mark_iff (hzero c hc) (hzero c' hc'),
    RepoModel.calleesOf]
  have hcandidates : d.calls.flatMap (m.candidatesAt ((m.file? d.filePath).map FileModel.language))
      = (d.calls.flatMap ((Scope.of m maxDepth).calleesAt
          ((Scope.of m maxDepth).languageOf? d))).map Callee.node := by
    rw [List.map_flatMap]
    congr 1
    funext site
    rw [map_node_calleesAt]
    rfl
  rw [hcandidates, firstsBy_map]
  rfl

/-! ## Frames that stand for unfoldings -/

lemma top_unfold (levels : ℕ) (above : List Text) (n : CallNode) :
    (m.unfold levels above n).top = n := by
  cases levels <;> rfl

lemma status_unfold (levels : ℕ) (above : List Text) (n : CallNode) :
    (m.unfold levels above n).status = n.statusAt levels above := by
  cases levels <;> rfl

/-- Only an expanded node has anything below it. -/
lemma children_unfold_of_ne {levels : ℕ} {above : List Text} {n : CallNode}
    (h : n.statusAt levels above ≠ .expanded) : (m.unfold levels above n).children = [] := by
  cases levels with
  | zero => rfl
  | succ levels =>
    rw [RepoModel.unfold, children]
    rw [CallNode.statusAt] at h
    cases hd : n.definition with
    | none => rfl
    | some d =>
      by_cases hkey : d.key ∈ above
      · simp [hkey]
      · simp [hd, hkey] at h

/-- Below an expanded node stand the callees of its definition. -/
lemma children_unfold_of_expanded {levels : ℕ} {above : List Text} {n : CallNode} {d : Definition}
    (hd : n.definition = some d) (h : n.statusAt levels above = .expanded) :
    (m.unfold levels above n).children
      = (m.calleesOf d).map (m.unfold (levels - 1) (d.key :: above)) := by
  rw [CallNode.statusAt, hd] at h
  cases levels with
  | zero => by_cases hkey : d.key ∈ above <;> simp [hkey] at h
  | succ levels =>
    have hkey : d.key ∉ above := fun hkey => by simp [hkey] at h
    rw [RepoModel.unfold, children]
    simp [hd, hkey]

/-- A frame stands for the unfolding of its node below the keys that it carries. -/
structure Stands (m : RepoModel) (maxDepth : ℕ) (f : Frame) (u : CallUnfolding) : Prop where
  unfolded : ∃ above, u = m.unfold (maxDepth - f.entry.depth) above f.node
    ∧ ∀ d, f.entry.definition = some d → f.path = d.key :: above
  status : f.entry.status = u.status

lemma stands_rootFrame (d : Definition) :
    Stands m maxDepth ((Scope.of m maxDepth).rootFrame d) (m.callTree maxDepth d) where
  unfolded := ⟨[], rfl, fun d' hd' => by cases hd'; rfl⟩
  status := by
    rw [RepoModel.callTree, status_unfold]
    rfl

/-- The frame of a callee stands for the unfolding of the callee. -/
lemma stands_frameOf (f : Frame) (id : ℕ) (c : Callee) :
    Stands m maxDepth ((Scope.of m maxDepth).frameOf f id c)
      (m.unfold (maxDepth - (f.entry.depth + 1)) f.path c.node) where
  unfolded := by
    refine ⟨f.path, rfl, fun d hd => ?_⟩
    change c.definition = some d at hd
    simp only [Scope.frameOf, hd]
  status := by
    rw [status_unfold]
    simp only [Scope.frameOf, Callee.entry, Scope.statusOf, Callee.node, decide_eq_true_eq]
    cases c.definition with
    | none => rfl
    | some d =>
      simp only [Scope.of]
      congr 1
      exact if_congr (by omega) rfl rfl

/-- Below a frame that stands for an unfolding its callees stand for the children. -/
lemma children_of_stands (hpaths : ∀ d ∈ m.definitions, (0 : CodeUnit) ∉ d.filePath) {f : Frame}
    {u : CallUnfolding} (h : Stands m maxDepth f u) :
    u.children = (if f.isOpen then (Scope.of m maxDepth).calleesOf f else []).map fun c =>
      m.unfold (maxDepth - (f.entry.depth + 1)) f.path c.node := by
  obtain ⟨⟨above, rfl, hpath⟩, hstatus⟩ := h
  rw [status_unfold] at hstatus
  have hopen : f.isOpen ↔ f.node.statusAt (maxDepth - f.entry.depth) above = .expanded := by
    rw [Frame.isOpen, hstatus, beq_iff_eq]
  by_cases hexpanded : f.node.statusAt (maxDepth - f.entry.depth) above = .expanded
  · rw [if_pos (hopen.mpr hexpanded)]
    cases hd : f.entry.definition with
    | none =>
      -- only a node with a definition is expanded
      rw [CallNode.statusAt, Frame.node, hd] at hexpanded
      cases hexpanded
    | some d =>
      rw [children_unfold_of_expanded (n := f.node) hd hexpanded, Scope.calleesOf, hd,
        ← map_node_callees hpaths, List.map_map, hpath d hd, Nat.sub_sub]
      rfl
  · rw [if_neg (fun h => hexpanded (hopen.mp h)), children_unfold_of_ne hexpanded]
    rfl

/-! ## Levels of frames -/

section

variable {root : Definition}

/-- The numbered places of a level of the call tree. -/
private def places (m : RepoModel) (maxDepth : ℕ) (root : Definition) (n : ℕ) :
    List ((Address × CallUnfolding) × ℕ) :=
  ((m.callTree maxDepth root).level n).zipIdx ((m.callTree maxDepth root).before n)

/-- Frames that stand for the places of a level and have their entries. -/
def ListsLevel (m : RepoModel) (maxDepth : ℕ) (root : Definition) (n : ℕ) (fs : List Frame) :
    Prop :=
  List.Forall₂ (fun f p => Stands m maxDepth f p.1.2
    ∧ f.entry = (m.callTree maxDepth root).entryAt p) fs (places m maxDepth root n)

/-- The entry of a callee is that of its place, once they are numbered alike. -/
lemma entry_frameOf {f : Frame} {p : (Address × CallUnfolding) × ℕ} {n : ℕ}
    (hplace : p ∈ places m maxDepth root n)
    (hentry : f.entry = (m.callTree maxDepth root).entryAt p) (c : Callee) (i k : ℕ) :
    ((Scope.of m maxDepth).frameOf f k c).entry
      = (m.callTree maxDepth root).entryAt
          ((p.1.1 ++ [i], m.unfold (maxDepth - (f.entry.depth + 1)) f.path c.node), k) := by
  have hparent : (m.callTree maxDepth root).parentIndex? (p.1.1 ++ [i]) = some f.entry.id := by
    rw [parentIndex?, if_neg (by simp), List.dropLast_concat, idxOf_addresses hplace, hentry]
    rfl
  have hdepth : f.entry.depth = p.1.1.length := by rw [hentry, entryAt]
  have hstands : Stands m maxDepth ((Scope.of m maxDepth).frameOf f k c) _ := stands_frameOf f k c
  rw [entryAt, hparent, ← hstands.status, top_unfold, List.length_append, ← hdepth]
  rfl

/-- Lists that agree element by element still do so when both are numbered. -/
private lemma forall₂_zipIdx {α β : Type} {R : α → β → Prop} {xs : List α} {ys : List β}
    (h : List.Forall₂ R xs ys) (k : ℕ) :
    List.Forall₂ (fun x y => R x.1 y.1 ∧ x.2 = y.2) (xs.zipIdx k) (ys.zipIdx k) := by
  induction h generalizing k with
  | nil => exact .nil
  | cons hxy _ ih => exact .cons ⟨hxy, rfl⟩ (ih (k + 1))

/-- Below a frame and its place the callees and the children stand side by side. -/
lemma forall₂_callees_children (hpaths : ∀ d ∈ m.definitions, (0 : CodeUnit) ∉ d.filePath) {n : ℕ}
    {f : Frame} {p : (Address × CallUnfolding) × ℕ} (hplace : p ∈ places m maxDepth root n)
    (hstands : Stands m maxDepth f p.1.2)
    (hentry : f.entry = (m.callTree maxDepth root).entryAt p) :
    List.Forall₂ (fun (c : Frame × Callee) (q : Address × CallUnfolding) =>
        ∀ k, Stands m maxDepth ((Scope.of m maxDepth).frameOf c.1 k c.2) q.2
          ∧ ((Scope.of m maxDepth).frameOf c.1 k c.2).entry
            = (m.callTree maxDepth root).entryAt (q, k))
      (if f.isOpen then ((Scope.of m maxDepth).calleesOf f).map fun c => (f, c) else [])
      (childrenAt p.1) := by
  have hchildren := children_of_stands hpaths hstands
  set callees := if f.isOpen then (Scope.of m maxDepth).calleesOf f else [] with hcallees
  have hpairs : (if f.isOpen then ((Scope.of m maxDepth).calleesOf f).map fun c => (f, c) else [])
      = callees.zipIdx.map fun c => (f, c.1) := by
    calc _ = callees.map fun c => (f, c) := by
          rw [hcallees]
          split <;> rfl
      _ = (callees.zipIdx.map Prod.fst).map fun c => (f, c) := by rw [List.zipIdx_map_fst]
      _ = _ := List.map_map
  rw [childrenAt, hchildren, hpairs, List.zipIdx_map, List.map_map, List.forall₂_map_left_iff,
    List.forall₂_map_right_iff, List.forall₂_same]
  intro c _ k
  exact ⟨stands_frameOf f k c.1, entry_frameOf hplace hentry c.1 c.2 k⟩

/-- Following the calls of a level lists the next level. -/
lemma listsLevel_framesBelow (hpaths : ∀ d ∈ m.definitions, (0 : CodeUnit) ∉ d.filePath)
    {n : ℕ} {fs : List Frame} (h : ListsLevel m maxDepth root n fs) :
    ListsLevel m maxDepth root (n + 1)
      ((Scope.of m maxDepth).framesBelow ((m.callTree maxDepth root).before (n + 1)) fs) := by
  have hlevel : (m.callTree maxDepth root).level (n + 1)
      = (places m maxDepth root n).flatMap fun p => childrenAt p.1 := by
    rw [level, places, ← List.flatMap_map (f := Prod.fst), List.zipIdx_map_fst]
  -- The entry of a callee names its parent, so each place must be known to be on this level.
  have hplaced := (List.forall₂_and_left _ _).mpr
    ⟨fun p (hp : p ∈ places m maxDepth root n) => hp, h.flip⟩
  have hpairs := List.rel_flatMap hplaced.flip fun f p hfp =>
    forall₂_callees_children hpaths hfp.1 hfp.2.1 hfp.2.2
  rw [ListsLevel, Scope.framesBelow, places, List.forall₂_map_left_iff, hlevel]
  refine (forall₂_zipIdx hpairs _).imp fun c q hcq => ?_
  rw [hcq.2]
  exact hcq.1 q.2

/-- The frames of a level have the entries of its places. -/
lemma map_entry_of_listsLevel {n : ℕ} {fs : List Frame} (h : ListsLevel m maxDepth root n fs) :
    fs.map Frame.entry
      = (places m maxDepth root n).map (m.callTree maxDepth root).entryAt := by
  rw [← List.forall₂_eq_eq_eq, List.forall₂_map_left_iff, List.forall₂_map_right_iff]
  exact h.imp fun f p hfp => hfp.2

/-- The frames below a level have the entries of the levels below. -/
lemma map_entry_framesFrom (hpaths : ∀ d ∈ m.definitions, (0 : CodeUnit) ∉ d.filePath)
    (levels : ℕ) {n : ℕ} {fs : List Frame} (h : ListsLevel m maxDepth root n fs) :
    ((Scope.of m maxDepth).framesFrom levels ((m.callTree maxDepth root).before (n + 1)) fs).map
        Frame.entry
      = (List.range' (n + 1) levels).flatMap fun k =>
          (places m maxDepth root k).map (m.callTree maxDepth root).entryAt := by
  induction levels generalizing n fs with
  | zero => rfl
  | succ levels ih =>
    have hbelow := listsLevel_framesBelow hpaths h
    have hcount := hbelow.length_eq
    rw [places, List.length_zipIdx] at hcount
    rw [Scope.framesFrom, List.map_append, map_entry_of_listsLevel hbelow, hcount, ← before_succ,
      ih hbelow, List.range'_succ, List.flatMap_cons]

/-- The frame of the root lists the top level. -/
lemma listsLevel_rootFrame :
    ListsLevel m maxDepth root 0 [(Scope.of m maxDepth).rootFrame root] := by
  have hroot : Stands m maxDepth ((Scope.of m maxDepth).rootFrame root)
      (m.callTree maxDepth root) := stands_rootFrame root
  refine .cons ⟨hroot, ?_⟩ .nil
  have htop : (m.callTree maxDepth root).top = CallNode.root root := top_unfold _ _ _
  rw [entryAt, htop, ← hroot.status]
  rfl

end

/-! ## The listing -/

/-- Some unfoldings are as high as the highest one. -/
lemma heightOfAll_le {us : List CallUnfolding} {n : ℕ} (h : ∀ u ∈ us, u.height + 1 ≤ n) :
    heightOfAll us ≤ n := by
  induction us with
  | nil => exact Nat.zero_le n
  | cons u us ih =>
    rw [heightOfAll]
    exact max_le (h u List.mem_cons_self) (ih fun v hv => h v (List.mem_cons_of_mem u hv))

/-- An unfolding is no higher than it may be. -/
lemma height_unfold_le (levels : ℕ) (above : List Text) (n : CallNode) :
    (m.unfold levels above n).height ≤ levels := by
  induction levels generalizing above n with
  | zero => exact Nat.le_refl 0
  | succ levels ih =>
    rw [RepoModel.unfold, height]
    apply heightOfAll_le
    intro u hu
    cases hd : n.definition with
    | none => simp [hd] at hu
    | some d =>
      by_cases hkey : d.key ∈ above
      · simp [hd, hkey] at hu
      · simp only [hd, hkey, ↓reduceIte, List.mem_map] at hu
        obtain ⟨c, -, rfl⟩ := hu
        exact Nat.succ_le_succ (ih _ c)

/-- A call stack that is not truncated lists the call tree. -/
lemma entries_expand (hpaths : ∀ d ∈ m.definitions, (0 : CodeUnit) ∉ d.filePath)
    {maxNodes : ℕ} (hpos : 1 ≤ maxNodes) {root : Definition}
    (h : ((Scope.of m maxDepth).expand maxNodes root).truncated = false) :
    ((Scope.of m maxDepth).expand maxNodes root).entries
      = (m.callTree maxDepth root).listing := by
  have hheight : (m.callTree maxDepth root).height < maxDepth + 1 :=
    Nat.lt_succ_of_le (height_unfold_le maxDepth [] _)
  have hroot : ListsLevel m maxDepth root 0 [(Scope.of m maxDepth).rootFrame root] :=
    listsLevel_rootFrame
  have htop := map_entry_of_listsLevel hroot
  have hfrom := map_entry_framesFrom hpaths maxDepth hroot
  rw [Scope.entries_expand_of_not_truncated hpos h, Scope.frames, listing_eq_levels hheight, List.range_eq_range',
    List.range'_succ, List.flatMap_cons]
  rw [List.map_cons, List.map_nil] at htop
  rw [List.map_cons]
  exact congrArg₂ (· ++ ·) htop hfrom

/-! ## Requests -/

lemma natural?_natCast (n : ℕ) : natural? (n : Number) = some n := by
  simp [natural?]

/-- Within its bounds a request is answered by the expansion. -/
lemma outcome_resolveJob {σ : Type} (m : RepoModel) (filePath : Text) (line : Number)
    {maxDepth maxNodes : ℕ} (hdepth : maxDepth ≤ depthLimit) (hnodes : 1 ≤ maxNodes)
    (session : Session σ) :
    ((resolveJob m filePath line maxDepth maxNodes).run session).1
      = .ok (resolveWithin m (Path.normalize filePath) line maxDepth maxNodes) := by
  have hcheckDepth : checkDepth maxDepth = .ok maxDepth := by
    rw [checkDepth, natural?_natCast]
    exact if_pos hdepth
  have hcheckNodes : checkNodes maxNodes = .ok maxNodes := by
    rw [checkNodes, natural?_natCast]
    exact if_pos hnodes
  rw [resolveJob, hcheckDepth, hcheckNodes]
  dsimp only [Job.run, Job.span, Job.spanned]
  cases resolveWithin m (Path.normalize filePath) line maxDepth maxNodes with
  | error e => rfl
  | ok s =>
    by_cases ht : s.truncated
    · simp [ht, bind, Job.andThen, Job.note, Job.report, Job.annotate, Job.trace, pure, Job.give,
        Except.mapError]
    · simp [ht, bind, Job.andThen, Job.annotate, Job.trace, pure, Job.give, Except.mapError]

lemma eq_natCast_of_natural? {x : Number} {n : ℕ} (h : natural? x = some n) : x = n := by
  unfold natural? at h
  split at h
  · next hx =>
    obtain rfl := Option.some.inj h
    apply Rat.ext
    · exact (Int.toNat_of_nonneg hx.2).symm
    · exact hx.1
  · cases h

/-- A depth bound that is accepted is a natural number up to the largest one. -/
lemma of_checkDepth_eq_ok {x : Number} {n : ℕ} (h : checkDepth x = .ok n) :
    x = n ∧ n ≤ depthLimit := by
  unfold checkDepth at h
  split at h
  · next k hk =>
    split at h
    · next hle =>
      obtain rfl := Except.ok.inj h
      exact ⟨eq_natCast_of_natural? hk, hle⟩
    · cases h
  · cases h

/-- A bound on the number of entries that is accepted is a natural number from one on. -/
lemma of_checkNodes_eq_ok {x : Number} {n : ℕ} (h : checkNodes x = .ok n) : x = n ∧ 1 ≤ n := by
  unfold checkNodes at h
  split at h
  · next k hk =>
    split at h
    · next hle =>
      obtain rfl := Except.ok.inj h
      exact ⟨eq_natCast_of_natural? hk, hle⟩
    · cases h
  · cases h

/-- A request that is answered with a call stack is within its bounds and meets a definition, whose
calls are followed. -/
lemma exists_of_resolveJob_eq_ok {σ : Type} {m : RepoModel} {filePath : Text}
    {line maxDepth maxNodes : Number} {session : Session σ} {s : CallStack}
    (h : ((resolveJob m filePath line maxDepth maxNodes).run session).1 = .ok (.ok s)) :
    ∃ depth nodes : ℕ, maxDepth = depth ∧ maxNodes = nodes ∧ depth ≤ depthLimit ∧ 1 ≤ nodes
      ∧ ∃ root, m.enclosing? (Path.normalize filePath) line = some root
        ∧ s = (Scope.of m depth).expand nodes root := by
  have hbounds : ∃ depth nodes : ℕ, maxDepth = depth ∧ maxNodes = nodes ∧ depth ≤ depthLimit
      ∧ 1 ≤ nodes := by
    unfold resolveJob at h
    split at h
    · cases h
    · cases h
    · next depth nodes hdepth hnodes =>
      obtain ⟨hdepth, hle⟩ := of_checkDepth_eq_ok hdepth
      obtain ⟨hnodes, hpos⟩ := of_checkNodes_eq_ok hnodes
      exact ⟨depth, nodes, hdepth, hnodes, hle, hpos⟩
  obtain ⟨depth, nodes, rfl, rfl, hdepth, hnodes⟩ := hbounds
  rw [outcome_resolveJob m filePath line hdepth hnodes, resolveWithin] at h
  refine ⟨depth, nodes, rfl, rfl, hdepth, hnodes, ?_⟩
  cases hroot : m.enclosing? (Path.normalize filePath) line with
  | none =>
    rw [hroot] at h
    cases h
  | some root =>
    rw [hroot] at h
    exact ⟨root, rfl, (Except.ok.inj (Except.ok.inj h)).symm⟩

/-- Within its bounds a request has the answer that the resolution has. -/
lemma exists_of_any_resolveWithin {σ : Type} {m : RepoModel} {filePath : Text} {line : Number}
    {maxDepth maxNodes : ℕ} {test : CallStack → Bool} (hdepth : maxDepth ≤ depthLimit)
    (hnodes : 1 ≤ maxNodes)
    (h : (resolveWithin m (Path.normalize filePath) line maxDepth maxNodes).toOption.any test)
    (session : Session σ) :
    ∃ s : CallStack, ((resolveJob m filePath line maxDepth maxNodes).run session).1 = .ok (.ok s)
      ∧ test s := by
  rw [outcome_resolveJob m filePath line hdepth hnodes]
  cases hwithin : resolveWithin m (Path.normalize filePath) line maxDepth maxNodes with
  | error e =>
    rw [hwithin] at h
    cases h
  | ok s =>
    rw [hwithin] at h
    exact ⟨s, rfl, h⟩

/-- Every request for the calls of an enclosing definition within the bounds is answered, and unless
the answer is truncated its entries are the call tree of that definition, level by level. -/
theorem entries_resolveJob_eq_listing {σ : Type} (m : RepoModel)
    (hpaths : ∀ d ∈ m.definitions, (0 : CodeUnit) ∉ d.filePath) (filePath : Text) (line : Number)
    (root : Definition) (hroot : m.enclosing? (Path.normalize filePath) line = some root)
    (maxDepth maxNodes : ℕ) (hdepth : maxDepth ≤ 64) (hnodes : 1 ≤ maxNodes)
    (session : Session σ) :
    ∃ s : CallStack, ((resolveJob m filePath line maxDepth maxNodes).run session).1 = .ok (.ok s)
      ∧ (s.truncated = false → s.entries = (m.callTree maxDepth root).listing) := by
  refine ⟨(Scope.of m maxDepth).expand maxNodes root, ?_, entries_expand hpaths hnodes⟩
  rw [outcome_resolveJob m filePath line hdepth hnodes, resolveWithin, hroot]

/-- Two functions of a file that call each other, the first one also itself under a name that
nobody defines. -/
def pingPong : RepoModel where
  files :=
    let call (name : String) : CallSite := ⟨name, name, 2, 4⟩
    let function (name : String) (line : Number) (calls : List CallSite) : Definition :=
      { kind := .declared .function, name, qualifiedName := name, filePath := "a.py"
        startLine := line, endLine := line + 1, calls }
    [("a.py",
      { language := "python", lineCount := 4
        definitions :=
          [function "ping" 1 [call "pong", call "log", call "pong"],
            function "pong" 3 [call "ping"]] })]

/-- The calls of `ping`: `pong` with `ping` again below it, and a name. -/
theorem entries_resolveJob_eq_listing_pingPong :
    (∀ d ∈ pingPong.definitions, (0 : CodeUnit) ∉ d.filePath)
      ∧ ∃ root, pingPong.enclosing? (Path.normalize "./a.py") 1 = some root
      ∧ ∃ s : CallStack,
        ((resolveJob pingPong "./a.py" 1 (3 : ℕ) (4 : ℕ)).run
          { host := default, world := () }).1 = .ok (.ok s)
        ∧ s.truncated = false ∧ s.entries = (pingPong.callTree 3 root).listing := by
  have hpaths : ∀ d ∈ pingPong.definitions, (0 : CodeUnit) ∉ d.filePath := by decide
  have hroot : pingPong.enclosing? (Path.normalize "./a.py") 1 = pingPong.definitions.head? := by
    decide +kernel
  refine ⟨hpaths, _, hroot, ?_⟩
  obtain ⟨s, hs, hlist⟩ := entries_resolveJob_eq_listing pingPong hpaths "./a.py" 1 _ hroot 3 4
    (by decide) (by decide) { host := default, world := () }
  have htruncated : s.truncated = false := by
    have hwithin : resolveWithin pingPong (Path.normalize "./a.py") 1 3 4 = .ok s := by
      rw [outcome_resolveJob _ _ _ (by decide) (by decide)] at hs
      simpa using hs
    have hcomplete : (resolveWithin pingPong (Path.normalize "./a.py") 1 3 4).toOption.all
        (fun t => !t.truncated) := by decide +kernel
    simpa [hwithin, Except.toOption] using hcomplete
  exact ⟨s, hs, htruncated, hlist htruncated⟩

end CallAtlas.CallStack
