import CallAtlas.Proofs.Graph.Truncation
import CallAtlas.Proofs.Json.Decoding
import CallAtlas.Proofs.Walks

/-!
# What is written of a call stack

A call stack lists its entries level by level, callers before their callees. From this list alone
the tree is made again: the nested document of a call stack, walked level by level, gives its
entries in the order of their numbers, and its text gives them in depth, with each entry behind its
caller. That the tree can be made rests on callers having smaller numbers, and that the walk level
by level gives the same list on the callers of later entries not being earlier ones (`Listed`).
-/

namespace CallAtlas.CallStack

/-! ## Listings -/

/-- Entries that are listed level by level. -/
structure Listed (entries : List CallStackEntry) : Prop where
  /-- Each entry is numbered by its place. -/
  map_id : entries.map CallStackEntry.id = List.range entries.length
  ne_nil : entries ≠ []
  parentId_of_zero : ∀ e ∈ entries, e.id = 0 → e.parentId = none
  /-- An entry behind the first one is one level below its caller, which comes before it. -/
  exists_caller : ∀ e ∈ entries, e.id ≠ 0 →
    ∃ c ∈ entries, e.parentId = some c.id ∧ c.id < e.id ∧ e.depth = c.depth + 1
  /-- The callers come in the order of their callees. -/
  pairwise : entries.Pairwise fun e e' =>
    ∀ p q, e.parentId = some p → e'.parentId = some q → p ≤ q

section

variable {s : Scope} {maxNodes : ℕ} {root : Definition} {e : CallStackEntry}

lemma map_id_expand (s : Scope) (hpos : 1 ≤ maxNodes) (root : Definition) :
    (s.expand maxNodes root).entries.map CallStackEntry.id
      = List.range (s.expand maxNodes root).entries.length := by
  have hids : (s.expand maxNodes root).entries.map CallStackEntry.id
      = ((s.frames root).map fun f => f.entry.id).take maxNodes := by
    rw [s.expand_eq hpos, List.map_map, List.map_take]
    simp only [Function.comp_def, id_markCut]
  rw [hids, s.expand_eq hpos, Scope.map_id_frames, List.take_range, List.length_map,
    List.length_take]

/-- The first entry has no caller. -/
lemma parentId_eq_none_of_mem_expand (hpos : 1 ≤ maxNodes)
    (he : e ∈ (s.expand maxNodes root).entries) (hid : e.id = 0) : e.parentId = none := by
  obtain ⟨f, hf, -, rfl⟩ := (Scope.mem_entries_expand hpos).mp he
  rw [id_markCut] at hid
  rw [parentId_markCut]
  cases hparent : f.entry.parentId with
  | none => rfl
  | some p =>
    have := Scope.parent_lt hf hparent
    omega

/-- The caller of another entry comes before it, and so before the end of the listing. -/
lemma exists_caller_of_mem_expand (hpos : 1 ≤ maxNodes)
    (he : e ∈ (s.expand maxNodes root).entries) (hid : e.id ≠ 0) :
    ∃ c ∈ (s.expand maxNodes root).entries,
      e.parentId = some c.id ∧ c.id < e.id ∧ e.depth = c.depth + 1 := by
  obtain ⟨f, hf, hlt, rfl⟩ := (Scope.mem_entries_expand hpos).mp he
  rw [id_markCut] at hid
  rcases Scope.eq_root_or_exists_caller hf with rfl | ⟨caller, hcaller, -, c, -, hframe⟩
  · exact (hid rfl).elim
  · have hparent : f.entry.parentId = some caller.entry.id := by rw [hframe]; rfl
    have hdepth : f.entry.depth = caller.entry.depth + 1 := by rw [hframe]; rfl
    have hbefore := Scope.parent_lt hf hparent
    refine ⟨_, (Scope.mem_entries_expand hpos).mpr ⟨caller, hcaller, by omega, rfl⟩, ?_, ?_, ?_⟩
    · rw [parentId_markCut, id_markCut, hparent]
    · rw [id_markCut, id_markCut]
      exact hbefore
    · rw [depth_markCut, depth_markCut, hdepth]

end

/-- The entries of a call stack are listed level by level, wherever the listing ends: where it ends
is marked, but neither numbers nor callers nor depths are changed. -/
theorem listed_expand (s : Scope) {maxNodes : ℕ} (hpos : 1 ≤ maxNodes) (root : Definition) :
    Listed (s.expand maxNodes root).entries where
  map_id := map_id_expand s hpos root
  ne_nil := by
    have hfirst : s.frames root ≠ [] := by
      rw [Scope.frames]
      exact List.cons_ne_nil _ _
    rw [s.expand_eq hpos, ne_eq, List.map_eq_nil_iff, List.take_eq_nil_iff]
    rintro (hzero | hempty)
    · omega
    · exact hfirst hempty
  parentId_of_zero _ he hid := parentId_eq_none_of_mem_expand hpos he hid
  exists_caller _ he hid := exists_caller_of_mem_expand hpos he hid
  pairwise := by
    rw [s.expand_eq hpos, List.pairwise_map]
    simp only [parentId_markCut]
    exact Scope.pairwise_parentId_frames.sublist (List.take_sublist _ _)

/-- The entries right below an entry. -/
def below (entries : List CallStackEntry) (e : CallStackEntry) : List CallStackEntry :=
  childrenOf entries e.id

namespace Listed

variable {entries : List CallStackEntry}

lemma mem_below {e c : CallStackEntry} :
    c ∈ below entries e ↔ c ∈ entries ∧ c.parentId = some e.id := by
  rw [below, childrenOf, List.mem_filter, decide_eq_true_eq]

/-- The numbers of the entries grow. -/
lemma pairwise_id (h : Listed entries) : entries.Pairwise fun e e' => e.id < e'.id := by
  rw [← List.pairwise_map (f := CallStackEntry.id) (R := (· < ·)), h.map_id]
  exact List.pairwise_lt_range

lemma id_lt_length (h : Listed entries) {e : CallStackEntry} (he : e ∈ entries) :
    e.id < entries.length := by
  have hid := List.mem_map_of_mem (f := CallStackEntry.id) he
  rwa [h.map_id, List.mem_range] at hid

/-- An entry is known by its number. -/
lemma eq_of_id_eq (h : Listed entries) {e e' : CallStackEntry} (he : e ∈ entries)
    (he' : e' ∈ entries) (hid : e.id = e'.id) : e = e' := by
  have hnodup : (entries.map CallStackEntry.id).Nodup := by
    rw [h.map_id]
    exact List.nodup_range
  exact List.inj_on_of_nodup_map hnodup he he' hid

/-- The number of an entry tells how many entries come before it. -/
lemma id_eq_length (h : Listed entries) {before after : List CallStackEntry} {e : CallStackEntry}
    (hsplit : entries = before ++ e :: after) : e.id = before.length := by
  have hids := congrArg (fun ids => ids[before.length]?) h.map_id
  simpa [hsplit] using hids

/-- A caller has a smaller number than its callees, and is one level above them. -/
lemma of_mem_below (h : Listed entries) {e c : CallStackEntry} (he : e ∈ entries)
    (hc : c ∈ below entries e) : e.id < c.id ∧ c.depth = e.depth + 1 := by
  obtain ⟨hc, hparent⟩ := mem_below.mp hc
  have hzero : c.id ≠ 0 := by
    intro hzero
    rw [h.parentId_of_zero c hc hzero] at hparent
    cases hparent
  obtain ⟨caller, hcaller, hcallerId, hlt, hdepth⟩ := h.exists_caller c hc hzero
  rw [hparent] at hcallerId
  obtain rfl := h.eq_of_id_eq he hcaller (Option.some.inj hcallerId)
  exact ⟨hlt, hdepth⟩

end Listed

/-! ## Level by level -/

/-- Has an entry a caller among the first ones? -/
def calledBefore (k : ℕ) (e : CallStackEntry) : Bool := e.parentId.any (· < k)

/-- Where no element with one property comes behind one with the other, those with either property
are those with the one and then those with the other. -/
lemma filter_or_of_pairwise {α : Type} {p q : α → Bool} {xs : List α}
    (hdisjoint : ∀ x ∈ xs, q x = true → p x = false)
    (h : xs.Pairwise fun a b => q a = true → p b = false) :
    (xs.filter fun x => p x || q x) = xs.filter p ++ xs.filter q := by
  induction xs with
  | nil => rfl
  | cons x xs ih =>
    obtain ⟨hx, hxs⟩ := List.forall_mem_cons.mp hdisjoint
    obtain ⟨hlater, hpairs⟩ := List.pairwise_cons.mp h
    have hrest := ih hxs hpairs
    cases hp : p x with
    | true =>
      have hq : q x = false := by
        by_contra hq
        rw [hx (by simpa using hq)] at hp
        cases hp
      simp [hp, hq, hrest]
    | false =>
      cases hq : q x with
      | false => simp [hp, hq, hrest]
      | true =>
        have hnone : xs.filter p = [] := by
          rw [List.filter_eq_nil_iff]
          intro y hy
          simp [hlater y hy hq]
        rw [hnone, List.nil_append] at hrest
        simp [hp, hq, hnone, hrest]

namespace Listed

variable {entries : List CallStackEntry}

lemma calledBefore_succ (k : ℕ) (e : CallStackEntry) :
    calledBefore (k + 1) e = (calledBefore k e || decide (e.parentId = some k)) := by
  rw [calledBefore, calledBefore]
  cases e.parentId with
  | none => rfl
  | some p =>
    simp only [Option.any_some, Option.some.injEq]
    rw [← Bool.decide_or]
    exact decide_eq_decide.mpr Nat.lt_succ_iff_lt_or_eq

/-- The callees of an entry come behind it. -/
lemma below_eq_filter (h : Listed entries) {before after : List CallStackEntry} {e : CallStackEntry}
    (hsplit : entries = before ++ e :: after) :
    below entries e = after.filter fun x => x.parentId = some e.id := by
  have he : e ∈ entries := by simp [hsplit]
  have hnone : (before ++ [e]).filter (fun x => x.parentId = some e.id) = [] := by
    rw [List.filter_eq_nil_iff]
    intro x hx hparent
    have hin : x ∈ entries := by
      rw [hsplit, List.append_cons]
      exact List.mem_append_left after hx
    have hlt := (h.of_mem_below he (mem_below.mpr ⟨hin, of_decide_eq_true hparent⟩)).1
    rcases List.mem_append.mp hx with hx | hx
    · have hids := h.pairwise_id
      rw [hsplit, List.pairwise_append] at hids
      have := hids.2.2 x hx e List.mem_cons_self
      omega
    · rw [List.mem_singleton.mp hx] at hlt
      omega
  calc below entries e = (before ++ [e] ++ after).filter fun x => x.parentId = some e.id := by
        rw [← List.append_cons, ← hsplit]
        rfl
    _ = after.filter fun x => x.parentId = some e.id := by
        rw [List.filter_append, hnone, List.nil_append]

/-- With one more entry visited, its callees wait behind the callees of those before it. -/
lemma filter_calledBefore_succ (h : Listed entries) {before after : List CallStackEntry}
    {e : CallStackEntry} (hsplit : entries = before ++ e :: after) :
    after.filter (calledBefore (before.length + 1))
      = after.filter (calledBefore before.length) ++ below entries e := by
  have hsub : after.Sublist entries := by
    rw [hsplit]
    exact (List.sublist_cons_self e after).trans (List.sublist_append_right before _)
  rw [h.below_eq_filter hsplit, h.id_eq_length hsplit]
  have hsplitFilter : after.filter (calledBefore (before.length + 1))
      = after.filter fun x =>
          calledBefore before.length x || decide (x.parentId = some before.length) :=
    List.filter_congr fun x _ => calledBefore_succ before.length x
  rw [hsplitFilter]
  apply filter_or_of_pairwise
  · intro x _ hx
    simp [calledBefore, of_decide_eq_true hx]
  · apply (h.pairwise.sublist hsub).imp
    intro x y hxy hx
    cases hparent : y.parentId with
    | none => simp [calledBefore, hparent]
    | some q => simpa [calledBefore, hparent] using hxy _ q (of_decide_eq_true hx) hparent

/-- The entries behind some first ones are visited level by level if those of them wait that have a
caller among the first ones. -/
lemma breadthFirst_after (h : Listed entries) {before after : List CallStackEntry}
    (hne : before ≠ []) (hsplit : entries = before ++ after) :
    BreadthFirst (below entries) (after.filter (calledBefore before.length)) after := by
  induction after generalizing before with
  | nil => exact .nil
  | cons e after ih =>
    have hid := h.id_eq_length hsplit
    have hcalled : calledBefore before.length e = true := by
      have hlength := List.length_pos_of_ne_nil hne
      obtain ⟨c, -, hparent, hlt, -⟩ := h.exists_caller e (by simp [hsplit]) (by omega)
      simpa [calledBefore, hparent, ← hid] using hlt
    have hnext := ih (by simp : before ++ [e] ≠ []) (by rw [hsplit, List.append_cons])
    rw [List.length_append, List.length_singleton, h.filter_calledBefore_succ hsplit] at hnext
    rw [List.filter_cons_of_pos hcalled]
    exact .cons hnext

/-- The walk level by level from the root visits the entries in the order of their numbers. -/
theorem breadthFirst (h : Listed entries) :
    BreadthFirst (below entries) entries.head?.toList entries := by
  obtain ⟨root, rest, rfl⟩ := List.exists_cons_of_ne_nil h.ne_nil
  have hrest := h.breadthFirst_after (List.cons_ne_nil root []) rfl
  have hnone : rest.filter (calledBefore 0) = [] := by
    rw [List.filter_eq_nil_iff]
    intro e _
    cases hparent : e.parentId <;> simp [calledBefore, hparent]
  have hwaiting : rest.filter (calledBefore 1) = below (root :: rest) root := by
    have hsucc := h.filter_calledBefore_succ (show root :: rest = [] ++ root :: rest from rfl)
    rwa [List.length_nil, hnone, List.nil_append] at hsucc
  rw [List.length_singleton, hwaiting] at hrest
  exact .cons hrest

end Listed

/-! ## The tree -/

/-- The tree below an entry of a call stack. -/
def treeAt (entries : List CallStackEntry) (e : CallStackEntry) : CallTree :=
  treeOf entries entries.length e

lemma preorderAll_eq_flatMap (ts : List CallTree) :
    CallTree.preorderAll ts = ts.flatMap CallTree.preorder := by
  induction ts with
  | nil => rfl
  | cons t ts ih => rw [CallTree.preorderAll, ih, List.flatMap_cons]

namespace Listed

variable {entries : List CallStackEntry}

/-- As callees have larger numbers, the tree of an entry is the same with any fuel that is enough
for the numbers from its own on. -/
lemma treeOf_eq (h : Listed entries) {fuel fuel' : ℕ} {e : CallStackEntry} (he : e ∈ entries)
    (hfuel : entries.length ≤ fuel + e.id) (hfuel' : entries.length ≤ fuel' + e.id) :
    treeOf entries fuel e = treeOf entries fuel' e := by
  induction fuel generalizing fuel' e with
  | zero =>
    have := h.id_lt_length he
    omega
  | succ fuel ih =>
    obtain ⟨fuel', rfl⟩ : ∃ n, fuel' = n + 1 := by
      have := h.id_lt_length he
      exact ⟨fuel' - 1, by omega⟩
    rw [treeOf, treeOf]
    congr 1
    apply List.map_congr_left
    intro c hc
    have := (h.of_mem_below he hc).1
    exact ih (mem_below.mp hc).1 (by omega) (by omega)

/-- Below an entry stand the trees of its callees. -/
lemma treeAt_eq (h : Listed entries) {e : CallStackEntry} (he : e ∈ entries) :
    treeAt entries e = .node e ((below entries e).map (treeAt entries)) := by
  have hmore : treeAt entries e = treeOf entries (entries.length + 1) e :=
    h.treeOf_eq he (by omega) (by omega)
  rw [hmore, treeOf]
  rfl

lemma preorder_treeAt (h : Listed entries) {e : CallStackEntry} (he : e ∈ entries) :
    (treeAt entries e).preorder
      = e :: (below entries e).flatMap fun c => (treeAt entries c).preorder := by
  rw [h.treeAt_eq he, CallTree.preorder, preorderAll_eq_flatMap, List.flatMap_map]

/-- Walking in depth from an entry visits its tree before anything else that waits. -/
lemma depthFirst_treeAt (h : Listed entries) {e : CallStackEntry} (he : e ∈ entries)
    {waiting visited : List CallStackEntry} (hrest : DepthFirst (below entries) waiting visited) :
    DepthFirst (below entries) (e :: waiting) ((treeAt entries e).preorder ++ visited) := by
  -- by the numbers, as callees have larger ones
  induction hdistance : entries.length - e.id using Nat.strong_induction_on
    generalizing e waiting visited with
  | _ n ih =>
    have hbelow : ∀ cs ⊆ below entries e, DepthFirst (below entries) (cs ++ waiting)
        ((cs.flatMap fun c => (treeAt entries c).preorder) ++ visited) := by
      intro cs hcs
      induction cs with
      | nil => exact hrest
      | cons c cs ihcs =>
        obtain ⟨hc, hcs⟩ := List.cons_subset.mp hcs
        have hlt := (h.of_mem_below he hc).1
        have := h.id_lt_length (mem_below.mp hc).1
        rw [List.flatMap_cons, List.append_assoc]
        exact ih (entries.length - c.id) (by omega) (mem_below.mp hc).1 (ihcs hcs) rfl
    rw [h.preorder_treeAt he]
    exact .cons (hbelow _ (List.Subset.refl _))

end Listed

/-! ## The nested document -/

/-- The documents right below that of an entry. -/
def nodesBelow (node : Json) : List Json := ((node.get? "children").map Json.elements).getD []

/-- What is written of an entry, apart from what stands below it. -/
structure IsNodeOf (e : CallStackEntry) (node : Json) : Prop where
  name_eq : node.get? "name" = some (.str ((e.definition.map Definition.name).getD e.calleeName))
  qualifiedName_eq : node.get? "qualifiedName"
    = some (Json.orNull Json.str (e.definition.map Definition.qualifiedName))
  filePath_eq : node.get? "filePath"
    = some (Json.orNull Json.str (e.definition.map Definition.filePath))
  startLine_eq : node.get? "startLine"
    = some (Json.orNull Json.num (e.definition.map Definition.startLine))
  endLine_eq : node.get? "endLine"
    = some (Json.orNull Json.num (e.definition.map Definition.endLine))
  status_eq : node.get? "status" = some (.str (Text.ofString e.status.name))
  depth_eq : node.get? "depth" = some (Json.ofNat e.depth)
  candidateCount_eq : node.get? "candidateCount" = some (Json.ofNat e.candidateCount)
  callSite_eq : node.get? "callSite" = some (Json.orNull CallSite.toJson e.callSite)

lemma nodesJson_eq_map (siteJson : CallSite → Json) (ts : List CallTree) :
    nodesJson siteJson ts = ts.map (nodeJson siteJson) := by
  induction ts with
  | nil => rfl
  | cons t ts ih => rw [nodesJson, ih, List.map_cons]

lemma get?_object (name : String) (members : List (String × Json)) :
    (Json.object members).get? name = members.lookup name :=
  Decoder.lookup_named name members

/-- The document of a tree is that of its entry, with those of the trees below it. -/
lemma isNodeOf_nodeJson (t : CallTree) : IsNodeOf t.entry (nodeJson CallSite.toJson t) := by
  obtain ⟨e, cs⟩ := t
  rw [nodeJson]
  constructor <;> exact get?_object _ _

lemma nodesBelow_nodeJson (t : CallTree) :
    nodesBelow (nodeJson CallSite.toJson t) = t.children.map (nodeJson CallSite.toJson) := by
  obtain ⟨e, cs⟩ := t
  rw [nodesBelow, nodeJson, get?_object, nodesJson_eq_map]
  rfl

/-- The document of an entry with all that stands below it. -/
def nodeAt (entries : List CallStackEntry) (e : CallStackEntry) : Json :=
  nodeJson CallSite.toJson (treeAt entries e)

/-- The nested document has the entries level by level, each one once. -/
lemma Listed.breadthFirst_nodeAt {entries : List CallStackEntry} (h : Listed entries) :
    BreadthFirst nodesBelow (entries.head?.toList.map (nodeAt entries))
        (entries.map (nodeAt entries))
      ∧ List.Forall₂ IsNodeOf entries (entries.map (nodeAt entries)) := by
  constructor
  · apply h.breadthFirst.map
    intro e he
    rw [nodeAt, nodesBelow_nodeJson, h.treeAt_eq he, CallTree.children, List.map_map]
    rfl
  · rw [List.forall₂_map_right_iff, List.forall₂_same]
    intro e he
    have hnode := isNodeOf_nodeJson (treeAt entries e)
    rwa [h.treeAt_eq he, CallTree.entry, ← h.treeAt_eq he] at hnode

/-! ## The text -/

/-- The caller of an entry is the nearest one of those before it that are a level higher. -/
def IsBehindCaller (before : List CallStackEntry) (e : CallStackEntry) : Prop :=
  ∃ earlier caller between, before = earlier ++ caller :: between ∧ e.parentId = some caller.id
    ∧ caller.depth + 1 = e.depth ∧ ∀ x ∈ between, e.depth ≤ x.depth

namespace Listed

variable {entries : List CallStackEntry}

/-- In a walk in depth every entry but the root comes behind its caller. -/
theorem isBehindCaller (h : Listed entries) {root : CallStackEntry} (hroot : root.parentId = none)
    {visited : List CallStackEntry} (hwalk : DepthFirst (below entries) [root] visited)
    (hvisited : visited ⊆ entries) {before after : List CallStackEntry} {e : CallStackEntry}
    (hsplit : visited = before ++ e :: after) :
    before = [] ∧ e.parentId = none ∨ IsBehindCaller before e := by
  have hdepth : ∀ a ∈ visited, ∀ b ∈ below entries a, b.depth = a.depth + 1 :=
    fun a ha b hb => (h.of_mem_below (hvisited ha) hb).2
  obtain _ | @⟨_, _, visited, hrest⟩ := hwalk
  cases before with
  | nil =>
    obtain rfl := List.head_eq_of_cons_eq hsplit
    exact .inl ⟨rfl, hroot⟩
  | cons first before =>
    obtain ⟨rfl, hrestSplit⟩ := List.cons.inj hsplit
    obtain ⟨hfirst, hlater⟩ := List.forall_mem_cons.mp hdepth
    -- After the root its callees wait, which are all at the same depth.
    have hsorted : (below entries root ++ []).Pairwise
        fun (a b : CallStackEntry) => b.depth ≤ a.depth := by
      rw [List.append_nil]
      apply List.pairwise_of_forall_mem_list
      intro a ha b hb
      exact Nat.le_of_eq ((hfirst b hb).trans (hfirst a ha).symm)
    have hnearest : ∀ c ∈ below entries root ++ [],
        HasNearest (below entries) CallStackEntry.depth [root] c :=
      fun c hc => ⟨[], root, [], rfl, by simpa using hc, by simp⟩
    obtain ⟨earlier, caller, between, hbefore, hcaller, hbetween⟩ :=
      hrest.hasNearest hlater hsorted hnearest hrestSplit
    have hmem : caller ∈ root :: visited := by
      have hin : caller ∈ [root] ++ before := by simp [hbefore]
      rw [hsplit]
      exact List.mem_append_left _ hin
    exact .inr ⟨earlier, caller, between, hbefore, (mem_below.mp hcaller).2,
      (hdepth caller hmem e hcaller).symm, hbetween⟩

end Listed

/-- How a call stack is written. -/
structure IsWritten (s : CallStack) : Prop where
  map_id : s.entries.map CallStackEntry.id = List.range s.entries.length
  /-- The nested document, walked level by level, has the entries in the order of their numbers. -/
  document : ∃ root nodes, s.toJson.get? "root" = some root
    ∧ BreadthFirst nodesBelow [root] nodes ∧ List.Forall₂ IsNodeOf s.entries nodes
  /-- The text has a line for each entry, in depth and with two blanks for each level, so that the
  caller of an entry is the nearest one before it that is a level higher. -/
  text : ∃ root visited, s.entries.head? = some root
    ∧ DepthFirst (below s.entries) [root] visited ∧ visited.Perm s.entries
    ∧ s.format .text = Text.join [Text.newline]
      ((visited.map fun e => List.replicate (2 * e.depth) (Text.unit ' ') ++ describe e)
        ++ if s.truncated then
            [Text.ofString "... truncated at " ++ Text.ofNat s.entries.length
              ++ Text.ofString " entries"]
          else [])
    ∧ ∀ before e after, visited = before ++ e :: after →
      before = [] ∧ e.parentId = none ∨ IsBehindCaller before e

/-- A call stack whose entries are listed level by level is written so. -/
theorem isWritten_of_listed {s : CallStack} (h : Listed s.entries) : s.IsWritten := by
  obtain ⟨root, rest, hentries⟩ := List.exists_cons_of_ne_nil h.ne_nil
  have hroot : root ∈ s.entries := by simp [hentries]
  have hhead : s.entries.head? = some root := by rw [hentries, List.head?_cons]
  have htree : s.tree? = some (treeAt s.entries root) := by
    rw [tree?, hhead]
    rfl
  have hparent : root.parentId = none :=
    h.parentId_of_zero root hroot
      (h.id_eq_length (show s.entries = [] ++ root :: rest from hentries))
  -- The tree is walked in depth, and level by level it gives the entries, so each is there once.
  have hwalk : DepthFirst (below s.entries) [root] (treeAt s.entries root).preorder := by
    have hwalk := h.depthFirst_treeAt hroot .nil
    rwa [List.append_nil] at hwalk
  have hperm : (treeAt s.entries root).preorder.Perm s.entries := by
    have hperm := h.breadthFirst.flatMap_perm fun e he => h.preorder_treeAt he
    rwa [hhead, Option.toList_some, List.flatMap_singleton] at hperm
  refine
    { map_id := h.map_id
      document := ?_
      text := ⟨root, _, hhead, hwalk, hperm, ?_, fun before e after hsplit =>
        h.isBehindCaller hparent hwalk hperm.subset hsplit⟩ }
  · obtain ⟨hnodes, hall⟩ := h.breadthFirst_nodeAt
    rw [hhead] at hnodes
    refine ⟨nodeAt s.entries root, _, ?_, hnodes, hall⟩
    rw [toJson, toJsonWith, get?_object, htree]
    rfl
  · rw [format, toText, htree]
    rfl

/-! ## Requests -/

/-- Every call stack that answers a request, cut short or not, is written so: as a document it has
the entries level by level, and as a text in depth. -/
theorem resolveJob_isWritten {σ : Type} {m : RepoModel} {filePath : Text}
    {line maxDepth maxNodes : Number} {session : Session σ} {s : CallStack}
    (h : ((resolveJob m filePath line maxDepth maxNodes).run session).1 = .ok (.ok s)) :
    s.IsWritten := by
  obtain ⟨depth, nodes, rfl, rfl, -, hpos, root, -, rfl⟩ := exists_of_resolveJob_eq_ok h
  exact isWritten_of_listed (listed_expand _ hpos root)

/-- Two of the four entries for the calls of `ping`: what the listing ends at is written too. -/
theorem resolveJob_isWritten_pingPong : ∃ s : CallStack,
    ((resolveJob pingPong "./a.py" 1 (3 : ℕ) (2 : ℕ)).run
      { host := default, world := () }).1 = .ok (.ok s)
    ∧ s.entries.map CallStackEntry.status = [.truncated, .truncated] ∧ s.truncated
    ∧ s.IsWritten := by
  have htest : (resolveWithin pingPong (Path.normalize "./a.py") 1 3 2).toOption.any fun s =>
      s.entries.map CallStackEntry.status == [.truncated, .truncated] && s.truncated := by
    decide +kernel
  obtain ⟨s, hs, hsaid⟩ := exists_of_any_resolveWithin (show 3 ≤ depthLimit by decide) (by decide)
    htest { host := default, world := () }
  rw [Bool.and_eq_true, beq_iff_eq] at hsaid
  exact ⟨s, hs, hsaid.1, hsaid.2, resolveJob_isWritten hs⟩

end CallAtlas.CallStack
