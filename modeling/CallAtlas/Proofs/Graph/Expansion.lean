import CallAtlas.Proofs.Graph.Frames

/-!
# What the queue finds

Following calls out of a queue finds the frames of a call stack in their order, up to the bound on
the number of entries (`expand_eq`). What holds along the queue is that the first frames have been
found, and that the open ones among them are those in the queue (`Found`): the callers that were
followed are the first open frames, and their callees are the frames found so far. The bound is met
at the caller of the first frame that has no place.
-/

namespace CallAtlas.CallStack

/-- Marks an entry as truncated if its calls were to be followed after the listing ended. -/
def markCut (cutAt : Option ℕ) (e : CallStackEntry) : CallStackEntry :=
  match cutAt with
  | none => e
  | some id => if e.status = .expanded ∧ id ≤ e.id then cutShort e else e

namespace Scope

variable {s : Scope} {root : Definition} {n : ℕ} {p : Progress}

/-! ## What was found -/

/-- The first frames were found, and the open ones among them are in the queue. -/
structure Found (s : Scope) (root : Definition) (n : ℕ) (p : Progress) : Prop where
  le : n ≤ (s.frames root).length
  entries : p.entries.toList = ((s.frames root).take n).map Frame.entry
  frontier : p.frontier.toList
    = (((s.frames root).take n).filter Frame.isOpen).map fun f => f.entry.id

lemma Found.size (h : s.Found root n p) : p.entries.size = n := by
  rw [← Array.length_toList, h.entries, List.length_map, List.length_take, Nat.min_eq_left h.le]

/-- A frame that was found is at the place of its number. -/
lemma Found.getElem?_entries (h : s.Found root n p) {f : Frame} (hf : f ∈ s.frames root)
    (hid : f.entry.id < n) : p.entries[f.entry.id]? = some f.entry := by
  rw [← Array.getElem?_toList, h.entries, List.getElem?_map, List.getElem?_take_of_lt hid,
    getElem?_frames_id hf]
  rfl

/-- The next frame is found. -/
lemma Found.push (h : s.Found root n p) {f : Frame} (hf : (s.frames root)[n]? = some f) :
    s.Found root (n + 1) (p.push f.entry) := by
  obtain ⟨hn, -⟩ := List.getElem?_eq_some_iff.mp hf
  have htake : (s.frames root).take (n + 1) = (s.frames root).take n ++ [f] := by
    rw [List.take_add_one, hf]
    rfl
  refine ⟨hn, ?_, ?_⟩
  · rw [Progress.push, Array.toList_push, h.entries, htake, List.map_append]
    rfl
  · rw [Progress.push, htake, List.filter_append, List.map_append, ← h.frontier]
    by_cases hopen : f.isOpen
    · have hstatus : f.entry.status = .expanded := beq_iff_eq.mp hopen
      rw [if_pos hstatus, Array.toList_push, List.filter_cons_of_pos hopen]
      rfl
    · have hstatus : f.entry.status ≠ .expanded := fun heq => hopen (beq_iff_eq.mpr heq)
      rw [if_neg hstatus, List.filter_cons_of_neg hopen]
      exact (List.append_nil _).symm

/-- The way up from a frame that was found meets the definitions on its path. -/
lemma Found.isOnPath_eq (h : s.Found root n p) (key : Text) {f : Frame} (hf : f ∈ s.frames root)
    (hid : f.entry.id < n) {steps : ℕ} (hsteps : f.entry.id < steps) :
    isOnPath p.entries key steps f.entry.id = decide (key ∈ f.path) := by
  -- Callers have smaller numbers, so that there are steps enough for them.
  induction steps generalizing f with
  | zero => exact absurd hsteps (Nat.not_lt_zero _)
  | succ steps ih =>
    rw [isOnPath, h.getElem?_entries hf hid]
    dsimp only
    rcases eq_root_or_exists_caller hf with rfl | ⟨caller, hcaller, -, c, -, hframe⟩
    · have hparent : (s.rootFrame root).entry.parentId = none := rfl
      have hdefinition : (s.rootFrame root).entry.definition = some root := rfl
      rw [hparent, hdefinition, rootFrame]
      simp [eq_comm]
    · have hparent : f.entry.parentId = some caller.entry.id := by
        rw [hframe]
        rfl
      have hlt : caller.entry.id < f.entry.id := parent_lt hf hparent
      have hdefinition : f.entry.definition = c.definition := by
        rw [hframe]
        rfl
      have habove := ih hcaller (hlt.trans hid) (Nat.lt_of_lt_of_le hlt (Nat.le_of_lt_succ hsteps))
      rw [hparent, hdefinition, Option.any_some, habove, hframe, frameOf]
      cases c.definition with
      | none => simp
      | some d => simp [eq_comm]

/-! ## The callees of one caller -/

/-- The next callee of a caller gets the entry of its frame. -/
lemma Found.entry_eq (h : s.Found root n p) {caller : Frame} (hcaller : caller ∈ s.frames root)
    (hid : caller.entry.id < n) (c : Callee) :
    c.entry caller.entry p.entries.size
        (s.statusOf (fun key => isOnPath p.entries key p.entries.size caller.entry.id)
          (caller.entry.depth + 1) c)
      = (s.frameOf caller n c).entry := by
  have hpath : (fun key => isOnPath p.entries key p.entries.size caller.entry.id)
      = fun key => decide (key ∈ caller.path) := by
    funext key
    exact h.isOnPath_eq key hcaller hid (by rwa [h.size])
  rw [hpath, h.size]
  rfl

/-- Of the callees of a caller those are found that have a place. -/
theorem Found.takeCallees {maxNodes : ℕ} {caller : Frame} (hcaller : caller ∈ s.frames root)
    {seen : List Text} {cs : List Callee} (h : s.Found root n p) (hid : caller.entry.id < n)
    (hn : n ≤ maxNodes)
    (hnext : s.number caller n (distinctCallees seen cs) <+: (s.frames root).drop n) :
    s.Found root (min (n + (distinctCallees seen cs).length) maxNodes)
        (s.takeCallees maxNodes caller.entry seen p cs)
      ∧ (s.takeCallees maxNodes caller.entry seen p cs).truncated
        = (p.truncated || decide (maxNodes < n + (distinctCallees seen cs).length)) := by
  induction cs generalizing seen p n with
  | nil =>
    have hroom : ¬ maxNodes < n := by omega
    rw [distinctCallees, Scope.takeCallees, List.length_nil, Nat.add_zero, Nat.min_eq_left hn]
    exact ⟨h, by simp [hroom]⟩
  | cons c cs ih =>
    rw [distinctCallees, Scope.takeCallees]
    rw [distinctCallees] at hnext
    by_cases hmark : c.mark ∈ seen
    · rw [if_pos hmark] at hnext
      rw [if_pos hmark, if_pos hmark]
      exact ih h hid hn hnext
    · rw [if_neg hmark] at hnext
      rw [if_neg hmark, if_neg hmark, h.size, List.length_cons]
      by_cases hroom : maxNodes ≤ n
      · -- The listing ends here.
        have hfull : min (n + ((distinctCallees (c.mark :: seen) cs).length + 1)) maxNodes = n := by
          omega
        have hmore : maxNodes < n + ((distinctCallees (c.mark :: seen) cs).length + 1) := by omega
        rw [if_pos hroom, hfull]
        exact ⟨⟨h.le, h.entries, h.frontier⟩, by simp [hmore]⟩
      · have hentry := h.entry_eq hcaller hid c
        rw [h.size] at hentry
        have hframes : s.number caller n (c :: distinctCallees (c.mark :: seen) cs)
            = s.frameOf caller n c
              :: s.number caller (n + 1) (distinctCallees (c.mark :: seen) cs) := by
          rw [number, List.zipIdx_cons, List.map_cons]
          rfl
        obtain ⟨rest, hrest⟩ := hnext
        rw [hframes, List.cons_append] at hrest
        have hget : (s.frames root)[n]? = some (s.frameOf caller n c) := by
          rw [← List.head?_drop, ← hrest, List.head?_cons]
        have hdrop : (s.frames root).drop (n + 1)
            = s.number caller (n + 1) (distinctCallees (c.mark :: seen) cs) ++ rest := by
          rw [← List.drop_drop, ← hrest, List.drop_one, List.tail_cons]
        have hpush := h.push hget
        have hrec := ih hpush (Nat.lt_succ_of_lt hid) (by omega) ⟨rest, hdrop.symm⟩
        rw [if_neg hroom]
        dsimp only
        rw [hentry]
        have hlength : n + 1 + (distinctCallees (c.mark :: seen) cs).length
            = n + ((distinctCallees (c.mark :: seen) cs).length + 1) := by omega
        rw [hlength] at hrec
        exact hrec

/-! ## Where the listing ends -/

/-- The entries of some numbers are marked, each other one stays as it is. -/
lemma getElem?_foldl_modify (ids : List ℕ) (entries : Array CallStackEntry) (i : ℕ) :
    (ids.foldl (fun es id => es.modify id cutShort) entries)[i]?
      = entries[i]?.map fun e => if i ∈ ids then cutShort e else e := by
  induction ids generalizing entries with
  | nil => simp
  | cons id ids ih =>
    rw [List.foldl_cons, ih, Array.getElem?_modify]
    by_cases hid : id = i
    · subst hid
      have htwice : ∀ e, cutShort (cutShort e) = cutShort e := fun _ => rfl
      by_cases hmem : id ∈ ids <;> simp [hmem, Function.comp_def, htwice]
    · have hne : i ≠ id := fun h => hid h.symm
      simp [hid, hne]

/-- The caller of the first frame that has no place, if there is such a frame. -/
def cutOf (s : Scope) (maxNodes : ℕ) (root : Definition) : Option ℕ :=
  (s.frames root)[maxNodes]?.bind fun g => g.entry.parentId

/-! ## Along the queue -/

/-- The frames up to a number have been followed, and all below them have been found. -/
structure Followed (s : Scope) (root : Definition) (m n : ℕ) : Prop where
  le : m ≤ n
  count : n = 1 + (s.callsFrom ((s.frames root).take m)).length

/-- The frames found are those that have been followed and those that have not. -/
lemma Followed.take_eq {m : ℕ} (h : s.Followed root m n) :
    (s.frames root).take n = (s.frames root).take m ++ ((s.frames root).take n).drop m := by
  conv_lhs => rw [← List.take_append_drop m ((s.frames root).take n), List.take_take,
    Nat.min_eq_left h.le]

/-- Where no open frame is left to be followed, all frames have been found. -/
lemma Followed.eq_length {m : ℕ} (h : s.Followed root m n) (hn : n ≤ (s.frames root).length)
    (hclosed : ∀ f ∈ ((s.frames root).take n).drop m, ¬ f.isOpen) :
    n = (s.frames root).length := by
  have hcount : 1 + (s.callsFrom ((s.frames root).take n)).length = n := by
    rw [h.take_eq, callsFrom_append, callsFrom_of_closed s hclosed, List.append_nil, ← h.count]
  have hdrop := s.drop_frames (List.take_append_drop n (s.frames root)).symm
  rw [hcount] at hdrop
  -- The first frame behind would have its caller before itself, and so among those found.
  refine le_antisymm hn (List.drop_eq_nil_iff.mp (List.eq_nil_iff_forall_not_mem.mpr ?_))
  by_contra hsome
  have hne : (s.frames root).drop n ≠ [] := fun hnil => hsome (by simp [hnil])
  have hlt : n < (s.frames root).length := by
    rw [ne_eq, List.drop_eq_nil_iff] at hne
    omega
  have hfirst : (s.frames root)[n] ∈ (s.frames root).drop n := by
    rw [List.drop_eq_getElem_cons hlt]
    exact List.mem_cons_self
  have hbelow := hfirst
  rw [hdrop] at hbelow
  obtain ⟨caller, hcaller, -, c, -, hframe⟩ := s.exists_caller_of_mem_framesBelow hbelow
  have hparent : caller.entry.id < (s.frames root)[n].entry.id :=
    parent_lt (List.getElem_mem hlt) (by rw [hframe]; rfl)
  rw [id_getElem_frames hlt] at hparent
  exact absurd (le_of_mem_drop_frames hcaller) (Nat.not_le.mpr hparent)

/-- The next open frame has its callees right behind the frames found so far. -/
lemma Followed.number_prefix {m : ℕ} (h : s.Followed root m n) {closed after : List Frame}
    {f : Frame} (hclosed : ∀ g ∈ closed, ¬ g.isOpen)
    (hsplit : (s.frames root).drop m = closed ++ f :: after) (hopen : f.isOpen) :
    s.number f n (s.calleesOf f) <+: (s.frames root).drop n := by
  have hframes : s.frames root = ((s.frames root).take m ++ closed) ++ f :: after := by
    rw [List.append_assoc, ← hsplit, List.take_append_drop]
  have hdrop := s.drop_frames hframes
  rw [callsFrom_append, callsFrom_of_closed s hclosed, List.append_nil, ← h.count,
    framesBelow_cons_of_open s hopen] at hdrop
  rw [hdrop]
  exact List.prefix_append _ _

/-- No frame is without a place if no caller is cut. -/
lemma cutOf_eq_none_iff {maxNodes : ℕ} (hpos : 1 ≤ maxNodes) :
    s.cutOf maxNodes root = none ↔ (s.frames root).length ≤ maxNodes := by
  rw [cutOf]
  constructor
  · intro hnone
    by_contra hlt
    rw [Nat.not_le] at hlt
    rw [List.getElem?_eq_getElem hlt, Option.bind_some] at hnone
    rcases eq_root_or_exists_caller (List.getElem_mem hlt) with hroot | ⟨_, -, -, _, -, hframe⟩
    · have hid := id_getElem_frames hlt
      rw [hroot] at hid
      exact absurd hid.symm (Nat.ne_of_gt hpos)
    · rw [hframe] at hnone
      cases hnone
  · intro hle
    rw [List.getElem?_eq_none hle]
    rfl

/-- The next caller is the first open frame behind those that have been followed. -/
lemma Found.exists_split {m : ℕ} {f : Frame} {more : List Frame} (h : s.Found root n p)
    (hm : m ≤ n)
    (hwaiting : (((s.frames root).take n).drop m).filter Frame.isOpen = f :: more) :
    ∃ closed after, (s.frames root).drop m = closed ++ f :: after ∧ (∀ g ∈ closed, ¬ g.isOpen)
      ∧ f.isOpen ∧ f ∈ (s.frames root).take n ∧ m + closed.length < n := by
  obtain ⟨closed, after, hsplit, hclosed, hopen, -⟩ := List.filter_eq_cons_iff.mp hwaiting
  have hlength : ((s.frames root).take n).length = n := by
    rw [List.length_take, Nat.min_eq_left h.le]
  have hdrop : (s.frames root).drop m
      = ((s.frames root).take n).drop m ++ (s.frames root).drop n := by
    conv_lhs => rw [← List.take_append_drop n (s.frames root)]
    exact List.drop_append_of_le_length (by rwa [hlength])
  refine ⟨closed, after ++ (s.frames root).drop n, ?_, hclosed, hopen, ?_, ?_⟩
  · rw [hdrop, hsplit, List.append_assoc, List.cons_append]
  · apply List.mem_of_mem_drop (i := m)
    rw [hsplit]
    exact List.mem_append_right _ List.mem_cons_self
  · have hcount := congrArg List.length hsplit
    rw [List.length_drop, hlength, List.length_append, List.length_cons] at hcount
    omega

/-- The open frames behind those that have been followed are the next caller and open frames with
larger numbers. -/
lemma mem_filter_drop_take_iff {k m : ℕ} {closed after : List Frame} {f g : Frame}
    (hclosed : ∀ g ∈ closed, ¬ g.isOpen)
    (hsplit : (s.frames root).drop m = closed ++ f :: after) (hg : g ∈ s.frames root)
    (hk : g.entry.id < k) :
    g ∈ (((s.frames root).take k).drop m).filter Frame.isOpen
      ↔ g.isOpen ∧ f.entry.id ≤ g.entry.id := by
  rw [List.mem_filter, and_comm]
  apply and_congr_right
  intro hopen
  constructor
  · intro hmem
    rw [List.drop_take] at hmem
    have hmem := List.mem_of_mem_take hmem
    have hids : ((s.frames root).drop m).Pairwise fun f g => f.entry.id < g.entry.id :=
      pairwise_id_frames.drop
    rw [hsplit] at hmem hids
    rcases List.mem_append.mp hmem with hbefore | hbehind
    · exact absurd hopen (hclosed g hbefore)
    · rcases List.mem_cons.mp hbehind with rfl | hafter
      · exact le_rfl
      · exact (List.rel_of_pairwise_cons (List.pairwise_append.mp hids).2.1 hafter).le
  · intro hle
    have hf : f ∈ (s.frames root).drop m := by
      rw [hsplit]
      exact List.mem_append_right _ List.mem_cons_self
    have hmem : g ∈ ((s.frames root).take k).take m ++ ((s.frames root).take k).drop m := by
      rw [List.take_append_drop]
      exact mem_take_frames.mpr ⟨hg, hk⟩
    rcases List.mem_append.mp hmem with hbefore | hbehind
    · rw [List.take_take] at hbefore
      have hlt := (mem_take_frames.mp hbefore).2
      have hm := le_of_mem_drop_frames hf
      omega
    · exact hbehind

/-- Where the bound is met, the caller and those that are still in the queue are marked. -/
lemma Found.toList_cut {maxNodes m : ℕ} {closed after : List Frame} {f : Frame}
    (h : s.Found root maxNodes p) (hm : m ≤ maxNodes) (hclosed : ∀ g ∈ closed, ¬ g.isOpen)
    (hsplit : (s.frames root).drop m = closed ++ f :: after) :
    (p.cut (((s.frames root).take m).filter Frame.isOpen).length).entries.toList
      = ((s.frames root).take maxNodes).map fun g => markCut (some f.entry.id) g.entry := by
  have hwaiting : p.frontier.toList.drop (((s.frames root).take m).filter Frame.isOpen).length
      = ((((s.frames root).take maxNodes).drop m).filter Frame.isOpen).map
          fun g => g.entry.id := by
    have htake : (s.frames root).take maxNodes
        = (s.frames root).take m ++ ((s.frames root).take maxNodes).drop m := by
      conv_lhs => rw [← List.take_append_drop m ((s.frames root).take maxNodes), List.take_take,
        Nat.min_eq_left hm]
    rw [h.frontier, htake, List.filter_append, List.map_append, List.drop_left' (by simp), ← htake]
  -- From the caller on, the open frames are those in the queue.
  have hmarked : ∀ g ∈ s.frames root, g.entry.id < maxNodes →
      (g.entry.id ∈ ((((s.frames root).take maxNodes).drop m).filter Frame.isOpen).map
          (fun g => g.entry.id)
        ↔ g.entry.status = .expanded ∧ f.entry.id ≤ g.entry.id) := by
    intro g hg hid
    rw [← beq_iff_eq (a := g.entry.status), ← Frame.isOpen,
      ← mem_filter_drop_take_iff hclosed hsplit hg hid, List.mem_map]
    constructor
    · rintro ⟨g', hg', hsame⟩
      have hframes : g' ∈ s.frames root :=
        List.mem_of_mem_take (List.mem_of_mem_drop (List.mem_filter.mp hg').1)
      rwa [← eq_of_id_eq hframes hg hsame]
    · exact fun hg' => ⟨g, hg', rfl⟩
  apply List.ext_getElem?
  intro i
  rw [Progress.cut, Array.getElem?_toList, getElem?_foldl_modify, hwaiting, List.getElem?_map,
    ← Array.getElem?_toList, h.entries, List.getElem?_map]
  cases hget : ((s.frames root).take maxNodes)[i]? with
  | none => rfl
  | some g =>
    obtain ⟨hi, hgi⟩ := List.getElem?_eq_some_iff.mp hget
    rw [List.length_take] at hi
    rw [List.getElem_take] at hgi
    have hid : g.entry.id = i := by
      rw [← hgi]
      exact id_getElem_frames (by omega)
    have hg : g ∈ s.frames root := hgi ▸ List.getElem_mem (by omega)
    subst hid
    rw [Option.map_some, Option.map_some, Option.map_some, markCut]
    exact congrArg some (if_congr (hmarked g hg (by omega)) rfl rfl)

/-- The bound is met at the caller whose callees do not all have a place. -/
lemma cutOf_eq_some {maxNodes : ℕ} {f : Frame} (hn : n ≤ maxNodes)
    (hroom : maxNodes < n + (s.calleesOf f).length)
    (hnext : s.number f n (s.calleesOf f) <+: (s.frames root).drop n) :
    s.cutOf maxNodes root = some f.entry.id := by
  obtain ⟨rest, hrest⟩ := hnext
  have hindex : maxNodes - n < (s.calleesOf f).length := by omega
  have hframe : (s.frames root)[maxNodes]?
      = some (s.frameOf f (n + (maxNodes - n)) (s.calleesOf f)[maxNodes - n]) := by
    have hdrop : (s.frames root)[maxNodes]? = ((s.frames root).drop n)[maxNodes - n]? := by
      rw [List.getElem?_drop, Nat.add_sub_cancel' hn]
    rw [hdrop, ← hrest, List.getElem?_append_left (by rwa [length_number]), number,
      List.getElem?_map, List.getElem?_zipIdx, List.getElem?_eq_getElem hindex]
    rfl
  rw [cutOf, hframe]
  rfl

/-- Where no open frame is left to be followed, the call stack is complete. -/
lemma Found.eq_of_closed {maxNodes m : ℕ} (h : s.Found root n p) (hfollowed : s.Followed root m n)
    (hn : n ≤ maxNodes) (hp : p.truncated = false)
    (hclosed : (((s.frames root).take n).drop m).filter Frame.isOpen = []) :
    p.entries.toList
        = ((s.frames root).take maxNodes).map (fun f => markCut (s.cutOf maxNodes root) f.entry)
      ∧ p.truncated = (s.cutOf maxNodes root).isSome := by
  have hlength := hfollowed.eq_length h.le (List.filter_eq_nil_iff.mp hclosed)
  have hcut : s.cutOf maxNodes root = none := by
    rw [cutOf, List.getElem?_eq_none (by omega)]
    rfl
  rw [h.entries, hcut, List.take_of_length_le (by omega), List.take_of_length_le (by omega)]
  exact ⟨rfl, hp⟩

/-- Along the queue the first frames are found; behind the last open one there are no more. -/
theorem work_eq {maxNodes steps head m : ℕ} (hfound : s.Found root n p)
    (hfollowed : s.Followed root m n) (hn : n ≤ maxNodes) (hp : p.truncated = false)
    (hhead : head = (((s.frames root).take m).filter Frame.isOpen).length)
    (hsteps : maxNodes ≤ head + steps) :
    (s.work maxNodes steps head p).entries.toList
        = ((s.frames root).take maxNodes).map (fun f => markCut (s.cutOf maxNodes root) f.entry)
      ∧ (s.work maxNodes steps head p).truncated = (s.cutOf maxNodes root).isSome := by
  induction steps generalizing head m n p with
  | zero =>
    -- There are as many steps as entries, and no more callers than these.
    apply hfound.eq_of_closed hfollowed hn hp
    have hcount : (((s.frames root).take n).filter Frame.isOpen).length ≤ n :=
      (List.length_filter_le _ _).trans (List.length_take_le _ _)
    rw [hfollowed.take_eq, List.filter_append, List.length_append] at hcount
    exact List.eq_nil_of_length_eq_zero (by omega)
  | succ steps ih =>
    have hfrontier : p.frontier[head]?
        = ((((s.frames root).take n).drop m).filter Frame.isOpen).head?.map
            fun f => f.entry.id := by
      rw [← Array.getElem?_toList, hfound.frontier, hfollowed.take_eq, List.filter_append,
        List.map_append, hhead, List.getElem?_append_right (by simp), List.length_map,
        Nat.sub_self, ← List.head?_eq_getElem?, List.head?_map, ← hfollowed.take_eq]
    rw [work, hfrontier]
    cases hwaiting : (((s.frames root).take n).drop m).filter Frame.isOpen with
    | nil => exact hfound.eq_of_closed hfollowed hn hp hwaiting
    | cons f more =>
      obtain ⟨closed, after, hsplit, hclosed, hopen, hmem, hlt⟩ :=
        hfound.exists_split hfollowed.le hwaiting
      obtain ⟨hf, hid⟩ := mem_take_frames.mp hmem
      have hnext := hfollowed.number_prefix hclosed hsplit hopen
      have hcaller : ((f :: more).head?.map fun f => f.entry.id).bind (fun id => p.entries[id]?)
          = some f.entry := hfound.getElem?_entries hf hid
      rw [calleesOf_eq] at hnext
      obtain ⟨hnew, htruncated⟩ := hfound.takeCallees hf hid hn hnext
      rw [hp, Bool.false_or, ← calleesOf_eq] at htruncated
      rw [← calleesOf_eq] at hnew hnext
      rw [hcaller]
      dsimp only
      by_cases hroom : maxNodes < n + (s.calleesOf f).length
      · rw [decide_eq_true hroom] at htruncated
        rw [Nat.min_eq_right (by omega)] at hnew
        rw [if_pos htruncated, hhead, cutOf_eq_some hn hroom hnext]
        exact ⟨hnew.toList_cut (hfollowed.le.trans hn) hclosed hsplit, htruncated⟩
      · rw [decide_eq_false hroom] at htruncated
        rw [Nat.min_eq_left (by omega)] at hnew
        rw [htruncated, if_neg Bool.false_ne_true]
        have hfirst : (s.frames root).take (m + closed.length + 1)
            = (s.frames root).take m ++ (closed ++ [f]) := by
          rw [Nat.add_assoc, List.take_add, hsplit, List.append_cons, List.take_left' (by simp)]
        apply ih hnew (m := m + closed.length + 1) ⟨by omega, ?_⟩ (by omega) htruncated ?_ (by omega)
        · rw [hfirst, callsFrom_append, callsFrom_append, callsFrom_of_closed s hclosed,
            List.nil_append, List.length_append, ← Nat.add_assoc, ← hfollowed.count]
          simp [callsFrom, hopen]
        · rw [hfirst, List.filter_append, List.filter_append,
            List.filter_eq_nil_iff.mpr hclosed, List.filter_cons_of_pos hopen, hhead]
          simp

/-- A call stack holds the first frames, and it is cut at the caller of the next one. -/
theorem expand_eq (s : Scope) {maxNodes : ℕ} (h : 1 ≤ maxNodes) (root : Definition) :
    s.expand maxNodes root
      = { entries := ((s.frames root).take maxNodes).map fun f =>
            markCut (s.cutOf maxNodes root) f.entry
          maxDepth := s.maxDepth
          truncated := (s.cutOf maxNodes root).isSome } := by
  have hfound : s.Found root 1 (Progress.push {} (s.rootEntry root)) := by
    have hempty : s.Found root 0 {} := ⟨Nat.zero_le _, rfl, rfl⟩
    exact hempty.push (f := s.rootFrame root) (by rw [frames]; rfl)
  have hfollowed : s.Followed root 0 1 := ⟨Nat.zero_le _, rfl⟩
  have hhead : 0 = (((s.frames root).take 0).filter Frame.isOpen).length := rfl
  obtain ⟨hentries, htruncated⟩ :=
    work_eq hfound hfollowed h rfl hhead (Nat.le_of_eq (Nat.zero_add maxNodes).symm)
  rw [expand, hentries, htruncated]

/-- The entries of a call stack are those of the frames that have a place. -/
lemma mem_entries_expand {maxNodes : ℕ} (h : 1 ≤ maxNodes) {e : CallStackEntry} :
    e ∈ (s.expand maxNodes root).entries ↔
      ∃ f ∈ s.frames root, f.entry.id < maxNodes ∧ e = markCut (s.cutOf maxNodes root) f.entry := by
  rw [expand_eq s h, List.mem_map]
  simp only [mem_take_frames, and_assoc, eq_comm]

/-- A call stack that is not cut holds all frames. -/
theorem entries_expand_of_not_truncated {maxNodes : ℕ} (hpos : 1 ≤ maxNodes)
    (h : (s.expand maxNodes root).truncated = false) :
    (s.expand maxNodes root).entries = (s.frames root).map Frame.entry := by
  rw [expand_eq s hpos] at h ⊢
  have hcut : s.cutOf maxNodes root = none := by simpa using h
  rw [hcut, List.take_of_length_le ((cutOf_eq_none_iff hpos).mp hcut)]
  rfl

end Scope

end CallAtlas.CallStack
