import CallAtlas.Graph.CallStack
import CallAtlas.Proofs.Keys
import Mathlib.Data.List.Basic
import Mathlib.Data.List.NodupEquivFin
import Mathlib.Tactic.Common

/-!
# All frames of a call stack

A call stack that nothing cuts can be told level by level, without a queue: each level holds the
callees of the open frames of the level before it, numbered through. A frame is an entry with the
keys on the path from the root, which need not be looked up then.

The frames are the root and behind it the callees of the open frames among them, in order
(`frames_eq`): each frame is numbered by its place, and the callers come in the order of their
numbers.
-/

namespace CallAtlas.CallStack

/-- An entry with the keys of the definitions on the path from the root down to it. -/
structure Frame where
  entry : CallStackEntry
  path : List Text
deriving DecidableEq, Inhabited

/-- Are the calls of a frame to be followed? -/
def Frame.isOpen (f : Frame) : Bool := f.entry.status == .expanded

/-- The callees without those that repeat an earlier one. -/
def distinctCallees (seen : List Text) : List Callee → List Callee
  | [] => []
  | c :: cs =>
    if c.mark ∈ seen then distinctCallees seen cs
    else c :: distinctCallees (c.mark :: seen) cs

lemma distinctCallees_eq (seen : List Text) (cs : List Callee) :
    distinctCallees seen cs = freshBy Callee.mark seen cs := by
  induction cs generalizing seen with
  | nil => rfl
  | cons c cs ih =>
    rw [distinctCallees, freshBy_cons, ih, ih]
    by_cases h : c.mark ∈ seen
    · rw [if_pos h, if_pos h]
    · rw [if_neg h, if_neg h]

namespace Scope

variable (s : Scope)

/-- The callees of a definition. -/
def callees (d : Definition) : List Callee :=
  distinctCallees [] (d.calls.flatMap (s.calleesAt (s.languageOf? d)))

/-- The callees of a frame. -/
def calleesOf (f : Frame) : List Callee :=
  match f.entry.definition with
  | none => []
  | some d => s.callees d

lemma calleesOf_eq (f : Frame) : s.calleesOf f = distinctCallees [] (s.called f.entry) := by
  unfold calleesOf called
  cases f.entry.definition <;> rfl

/-- The frame of the root. -/
def rootFrame (d : Definition) : Frame := ⟨s.rootEntry d, [d.key]⟩

/-- The frame of a callee. -/
def frameOf (caller : Frame) (id : ℕ) (c : Callee) : Frame where
  entry := c.entry caller.entry id
    (s.statusOf (fun key => key ∈ caller.path) (caller.entry.depth + 1) c)
  path :=
    match c.definition with
    | some d => d.key :: caller.path
    | none => caller.path

/-- The frames of callees, numbered from a first number on. -/
def number (caller : Frame) (first : ℕ) (cs : List Callee) : List Frame :=
  (cs.zipIdx first).map fun c => s.frameOf caller c.2 c.1

/-- The calls that lead out of the open frames of a level, each with its frame. -/
def callsFrom (fs : List Frame) : List (Frame × Callee) :=
  fs.flatMap fun f => if f.isOpen then (s.calleesOf f).map fun c => (f, c) else []

/-- The frames right below a level. -/
def framesBelow (next : ℕ) (fs : List Frame) : List Frame :=
  ((s.callsFrom fs).zipIdx next).map fun c => s.frameOf c.1.1 c.2 c.1.2

/-- The frames of some levels below a level. -/
def framesFrom : (levels next : ℕ) → List Frame → List Frame
  | 0, _, _ => []
  | levels + 1, next, fs =>
    let below := s.framesBelow next fs
    below ++ framesFrom levels (next + below.length) below

/-! ## One level -/

/-- The frames of one caller are its calls, numbered. -/
lemma number_eq (f : Frame) (next : ℕ) (cs : List Callee) :
    s.number f next cs
      = ((cs.map fun c => (f, c)).zipIdx next).map fun c => s.frameOf c.1.1 c.2 c.1.2 := by
  rw [number, List.zipIdx_map, List.map_map]
  rfl

lemma framesBelow_nil (next : ℕ) : s.framesBelow next [] = [] := rfl

lemma framesBelow_cons_of_open {f : Frame} (hf : f.isOpen) (next : ℕ) (fs : List Frame) :
    s.framesBelow next (f :: fs)
      = s.number f next (s.calleesOf f)
        ++ s.framesBelow (next + (s.calleesOf f).length) fs := by
  rw [number_eq, framesBelow, framesBelow, callsFrom, List.flatMap_cons, if_pos hf,
    List.zipIdx_append, List.map_append, List.length_map]
  rfl

lemma length_number (f : Frame) (next : ℕ) (cs : List Callee) :
    (s.number f next cs).length = cs.length := by
  rw [number, List.length_map, List.length_zipIdx]

/-- A call that leads out of a level is one of an open frame of the level. -/
lemma mem_callsFrom {fs : List Frame} {c : Frame × Callee} :
    c ∈ s.callsFrom fs ↔ c.1 ∈ fs ∧ c.1.isOpen ∧ c.2 ∈ s.calleesOf c.1 := by
  rw [callsFrom, List.mem_flatMap]
  constructor
  · rintro ⟨f, hf, hc⟩
    split at hc
    · next hopen =>
      obtain ⟨callee, hcallee, rfl⟩ := List.mem_map.mp hc
      exact ⟨hf, hopen, hcallee⟩
    · cases hc
  · rintro ⟨hf, hopen, hcallee⟩
    refine ⟨c.1, hf, ?_⟩
    rw [if_pos hopen]
    exact List.mem_map_of_mem hcallee

/-- A frame below a level is that of a callee of an open frame of the level. -/
lemma exists_caller_of_mem_framesBelow {next : ℕ} {fs : List Frame} {f : Frame}
    (hf : f ∈ s.framesBelow next fs) :
    ∃ caller ∈ fs, caller.isOpen ∧ ∃ c ∈ s.calleesOf caller, f = s.frameOf caller f.entry.id c := by
  obtain ⟨c, hc, rfl⟩ := List.mem_map.mp hf
  obtain ⟨hcaller, hopen, hcallee⟩ := s.mem_callsFrom.mp (List.fst_mem_of_mem_zipIdx hc)
  exact ⟨c.1.1, hcaller, hopen, c.1.2, hcallee, rfl⟩

variable {s} in
/-- The root is at depth zero. -/
lemma depth_of_mem_rootFrame {root : Definition} :
    ∀ f ∈ [s.rootFrame root], f.entry.depth = 0 :=
  List.forall_mem_singleton.mpr rfl

variable {s} in
/-- The frames right below a level are one step deeper. -/
lemma depth_of_mem_framesBelow {depth next : ℕ} {fs : List Frame}
    (h : ∀ f ∈ fs, f.entry.depth = depth) :
    ∀ f ∈ s.framesBelow next fs, f.entry.depth = depth + 1 := by
  intro f hf
  obtain ⟨caller, hcaller, -, c, -, hframe⟩ := s.exists_caller_of_mem_framesBelow hf
  rw [hframe, ← h caller hcaller]
  rfl

lemma framesFrom_nil (levels next : ℕ) : s.framesFrom levels next [] = [] := by
  induction levels generalizing next with
  | zero => rfl
  | succ levels ih =>
    rw [framesFrom, framesBelow_nil]
    exact ih _

/-- The frames of a call stack that nothing cuts, level by level. -/
def frames (root : Definition) : List Frame :=
  s.rootFrame root :: s.framesFrom s.maxDepth 1 [s.rootFrame root]

/-! ## Levels one after the other -/

lemma callsFrom_append (fs gs : List Frame) :
    s.callsFrom (fs ++ gs) = s.callsFrom fs ++ s.callsFrom gs := List.flatMap_append

lemma callsFrom_of_closed {fs : List Frame} (h : ∀ f ∈ fs, ¬ f.isOpen) : s.callsFrom fs = [] :=
  List.flatMap_eq_nil_iff.mpr fun f hf => if_neg (h f hf)

lemma length_framesBelow (next : ℕ) (fs : List Frame) :
    (s.framesBelow next fs).length = (s.callsFrom fs).length := by
  rw [framesBelow, List.length_map, List.length_zipIdx]

/-- Below two lists of frames stand the frames below the first one and then those below the second
one. -/
lemma framesBelow_append (next : ℕ) (fs gs : List Frame) :
    s.framesBelow next (fs ++ gs)
      = s.framesBelow next fs ++ s.framesBelow (next + (s.framesBelow next fs).length) gs := by
  rw [length_framesBelow, framesBelow, callsFrom_append, List.zipIdx_append, List.map_append]
  rfl

/-- Nothing stands below frames that are not open. -/
lemma framesBelow_of_closed {next : ℕ} {fs : List Frame} (h : ∀ f ∈ fs, ¬ f.isOpen) :
    s.framesBelow next fs = [] := by
  rw [framesBelow, callsFrom_of_closed s h]
  rfl

/-- The frame of a callee is open only above the depth bound. -/
lemma depth_lt_of_isOpen_frameOf {caller : Frame} {id : ℕ} {c : Callee}
    (h : (s.frameOf caller id c).isOpen) : (s.frameOf caller id c).entry.depth < s.maxDepth := by
  change caller.entry.depth + 1 < s.maxDepth
  rw [Frame.isOpen, beq_iff_eq] at h
  change s.statusOf (fun key => key ∈ caller.path) (caller.entry.depth + 1) c = .expanded at h
  unfold statusOf at h
  split at h
  · cases h
  · split at h
    · cases h
    · split at h
      · cases h
      · omega

lemma depth_lt_of_isOpen_rootFrame {root : Definition} (h : (s.rootFrame root).isOpen) :
    (s.rootFrame root).entry.depth < s.maxDepth := by
  change 0 < s.maxDepth
  by_contra hzero
  rw [Frame.isOpen, beq_iff_eq, rootFrame, rootEntry] at h
  simp only [if_pos (Nat.eq_zero_of_not_pos hzero), reduceCtorEq] at h

/-- What stands below a level and all levels under it are these levels again. -/
lemma framesBelow_append_framesFrom {levels next depth : ℕ} {fs : List Frame}
    (hdepth : ∀ f ∈ fs, f.entry.depth = depth) (hbound : depth + levels = s.maxDepth)
    (hopen : ∀ f ∈ fs, f.isOpen → f.entry.depth < s.maxDepth) :
    s.framesBelow next (fs ++ s.framesFrom levels next fs) = s.framesFrom levels next fs := by
  induction levels generalizing next depth fs with
  | zero =>
    -- the frames of the last level are at the bound
    rw [framesFrom, List.append_nil]
    apply framesBelow_of_closed
    intro f hf hf'
    have := hopen f hf hf'
    rw [hdepth f hf] at this
    omega
  | succ levels ih =>
    rw [framesFrom, framesBelow_append]
    congr 1
    apply ih (depth_of_mem_framesBelow hdepth) (by omega)
    intro f hf hf'
    obtain ⟨caller, -, -, c, -, hframe⟩ := s.exists_caller_of_mem_framesBelow hf
    rw [hframe] at hf' ⊢
    exact s.depth_lt_of_isOpen_frameOf hf'

/-- The frames are the root and the callees of the open frames, in order. -/
theorem frames_eq (root : Definition) :
    s.frames root = s.rootFrame root :: s.framesBelow 1 (s.frames root) := by
  have hopen : ∀ f ∈ [s.rootFrame root], f.isOpen → f.entry.depth < s.maxDepth := by
    intro f hf hf'
    rw [List.mem_singleton.mp hf] at hf' ⊢
    exact s.depth_lt_of_isOpen_rootFrame hf'
  have hbelow : s.framesBelow 1 (s.frames root) = s.framesFrom s.maxDepth 1 [s.rootFrame root] :=
    s.framesBelow_append_framesFrom depth_of_mem_rootFrame (Nat.zero_add _) hopen
  rw [hbelow]
  rfl

/-- Behind the callees of the first frames stand the callees of the other ones. -/
lemma drop_frames {root : Definition} {before after : List Frame}
    (h : s.frames root = before ++ after) :
    (s.frames root).drop (1 + (s.callsFrom before).length)
      = s.framesBelow (1 + (s.callsFrom before).length) after := by
  rw [Nat.add_comm, frames_eq, List.drop_succ_cons, h, framesBelow_append, length_framesBelow,
    List.drop_left' (s.length_framesBelow 1 before), Nat.add_comm]

/-! ## Numbers -/

variable {s}
variable {root : Definition}

/-- The frames below a level are numbered one after the other. -/
lemma map_id_framesBelow (next : ℕ) (fs : List Frame) :
    (s.framesBelow next fs).map (fun f => f.entry.id)
      = List.range' next (s.framesBelow next fs).length := by
  have hids : (s.framesBelow next fs).map (fun f => f.entry.id)
      = ((s.callsFrom fs).zipIdx next).map Prod.snd := by
    rw [framesBelow, List.map_map]
    rfl
  rw [hids, List.zipIdx_map_snd, framesBelow, List.length_map, List.length_zipIdx]

/-- Each frame is numbered by its place. -/
theorem map_id_frames :
    (s.frames root).map (fun f => f.entry.id) = List.range (s.frames root).length := by
  rw [frames_eq, List.map_cons, map_id_framesBelow, List.length_cons, List.range_eq_range',
    List.range'_succ]
  rfl

lemma id_getElem_frames {i : ℕ} (hi : i < (s.frames root).length) :
    (s.frames root)[i].entry.id = i := by
  have hmap : (s.frames root).map (fun f => f.entry.id) = _ := map_id_frames
  have hget := List.getElem_of_eq hmap (i := i) (by rwa [List.length_map])
  rwa [List.getElem_map, List.getElem_range] at hget

/-- A frame is at the place of its number. -/
lemma getElem?_frames_id {f : Frame} (hf : f ∈ s.frames root) :
    (s.frames root)[f.entry.id]? = some f := by
  obtain ⟨i, hi, rfl⟩ := List.mem_iff_getElem.mp hf
  rw [id_getElem_frames hi, List.getElem?_eq_getElem hi]

/-- A frame is known by its number. -/
lemma eq_of_id_eq {f g : Frame} (hf : f ∈ s.frames root) (hg : g ∈ s.frames root)
    (h : f.entry.id = g.entry.id) : f = g := by
  have hnodup : ((s.frames root).map fun f => f.entry.id).Nodup := by
    rw [map_id_frames]
    exact List.nodup_range
  exact List.inj_on_of_nodup_map hnodup hf hg h

/-- The frames before a place are those with smaller numbers. -/
lemma mem_take_frames {n : ℕ} {f : Frame} :
    f ∈ (s.frames root).take n ↔ f ∈ s.frames root ∧ f.entry.id < n := by
  constructor
  · intro hf
    obtain ⟨i, hi, rfl⟩ := List.mem_iff_getElem.mp hf
    rw [List.length_take] at hi
    rw [List.getElem_take, id_getElem_frames (by omega)]
    exact ⟨List.getElem_mem _, by omega⟩
  · rintro ⟨hf, hid⟩
    obtain ⟨i, hi, rfl⟩ := List.mem_iff_getElem.mp hf
    rw [id_getElem_frames hi] at hid
    apply List.mem_iff_getElem.mpr
    refine ⟨i, by rw [List.length_take]; omega, ?_⟩
    rw [List.getElem_take]

/-- The frames from a place on are those with larger numbers. -/
lemma le_of_mem_drop_frames {n : ℕ} {f : Frame} (hf : f ∈ (s.frames root).drop n) :
    n ≤ f.entry.id := by
  obtain ⟨i, hi, rfl⟩ := List.mem_iff_getElem.mp hf
  rw [List.length_drop] at hi
  rw [List.getElem_drop, id_getElem_frames (by omega)]
  exact Nat.le_add_right n i

/-! ## Callers -/

/-- A callee of a definition is one of a call site of it. -/
lemma exists_site_of_mem_callees {d : Definition} {c : Callee} (hc : c ∈ s.callees d) :
    ∃ site ∈ d.calls, c ∈ s.calleesAt (s.languageOf? d) site := by
  rw [callees, distinctCallees_eq] at hc
  exact List.mem_flatMap.mp
    ((freshBy_append_staleBy_perm _ _ _).mem_iff.mp (List.mem_append_left _ hc))

/-- A frame that has callees has a definition, whose callees they are. -/
lemma exists_definition_of_mem_calleesOf {f : Frame} {c : Callee} (hc : c ∈ s.calleesOf f) :
    ∃ d, f.entry.definition = some d ∧ c ∈ s.callees d := by
  unfold calleesOf at hc
  split at hc
  · cases hc
  · next d hd => exact ⟨d, hd, hc⟩

/-- A frame is that of the root, or of a callee of another open frame. -/
lemma eq_root_or_exists_caller {f : Frame} (hf : f ∈ s.frames root) :
    f = s.rootFrame root ∨ ∃ caller ∈ s.frames root, caller.isOpen
      ∧ ∃ c ∈ s.calleesOf caller, f = s.frameOf caller f.entry.id c := by
  rw [frames_eq] at hf
  rcases List.mem_cons.mp hf with rfl | hf
  · exact .inl rfl
  · exact .inr (s.exists_caller_of_mem_framesBelow hf)

/-- Callers have smaller numbers than the frames below them. -/
lemma parent_lt_of_mem_framesFrom {levels next : ℕ} {fs : List Frame}
    (h : ∀ g ∈ fs, g.entry.id < next) {f : Frame} (hf : f ∈ s.framesFrom levels next fs) {p : ℕ}
    (hp : f.entry.parentId = some p) : p < f.entry.id := by
  induction levels generalizing next fs with
  | zero => cases hf
  | succ levels ih =>
    have hids : ∀ g ∈ s.framesBelow next fs,
        next ≤ g.entry.id ∧ g.entry.id < next + (s.framesBelow next fs).length := by
      intro g hg
      have hid := List.mem_map_of_mem (f := fun f : Frame => f.entry.id) hg
      rwa [map_id_framesBelow, List.mem_range'_1] at hid
    rw [framesFrom] at hf
    rcases List.mem_append.mp hf with hf | hf
    · obtain ⟨caller, hcaller, -, c, -, hframe⟩ := s.exists_caller_of_mem_framesBelow hf
      rw [hframe] at hp
      obtain rfl : caller.entry.id = p := Option.some.inj hp
      exact (h caller hcaller).trans_le (hids f hf).1
    · exact ih (fun g hg => (hids g hg).2) hf

/-- A caller comes before its callees. -/
theorem parent_lt {f : Frame} (hf : f ∈ s.frames root) {p : ℕ} (hp : f.entry.parentId = some p) :
    p < f.entry.id := by
  rw [frames] at hf
  rcases List.mem_cons.mp hf with rfl | hf
  · cases hp
  · apply parent_lt_of_mem_framesFrom _ hf hp
    intro g hg
    rw [List.mem_singleton.mp hg]
    exact Nat.one_pos

/-- What is true of the root, and of each frame that has a caller of which it is true, is true of
all frames. -/
theorem induction_frames {P : Frame → Prop} (hroot : P (s.rootFrame root))
    (hcallee : ∀ f ∈ s.frames root, ∀ caller ∈ s.frames root, caller.entry.id < f.entry.id →
      caller.isOpen → ∀ c ∈ s.calleesOf caller, f = s.frameOf caller f.entry.id c →
      P caller → P f)
    {f : Frame} (hf : f ∈ s.frames root) : P f := by
  -- by the numbers of the frames, as callers have smaller ones
  induction hid : f.entry.id using Nat.strong_induction_on generalizing f with
  | _ id ih =>
    rcases eq_root_or_exists_caller hf with rfl | ⟨caller, hcaller, hopen, c, hc, hframe⟩
    · exact hroot
    · have hlt : caller.entry.id < f.entry.id := parent_lt hf (by rw [hframe]; rfl)
      exact hcallee f hf caller hcaller hlt hopen c hc hframe (ih _ (hid ▸ hlt) hcaller rfl)

/-- The calls that lead out of frames come in the order of the frames. -/
lemma pairwise_callsFrom {fs : List Frame} (h : fs.Pairwise fun f g => f.entry.id < g.entry.id) :
    (s.callsFrom fs).Pairwise fun c c' => c.1.entry.id ≤ c'.1.entry.id := by
  induction fs with
  | nil => exact List.Pairwise.nil
  | cons f fs ih =>
    obtain ⟨hfirst, hrest⟩ := List.pairwise_cons.mp h
    rw [callsFrom, List.flatMap_cons]
    apply List.pairwise_append.mpr
    have hcaller : ∀ c ∈ (if f.isOpen then (s.calleesOf f).map fun c => (f, c) else []),
        c.1 = f := by
      intro c hc
      split at hc
      · obtain ⟨callee, -, rfl⟩ := List.mem_map.mp hc
        rfl
      · cases hc
    refine ⟨?_, ih hrest, ?_⟩
    · apply List.pairwise_of_forall_mem_list
      intro c hc c' hc'
      rw [hcaller c hc, hcaller c' hc']
    · intro c hc c' hc'
      rw [hcaller c hc]
      exact (hfirst _ (s.mem_callsFrom.mp hc').1).le

/-- The numbers of frames grow. -/
lemma pairwise_id_frames : (s.frames root).Pairwise fun f g => f.entry.id < g.entry.id := by
  rw [← List.pairwise_map (f := fun f : Frame => f.entry.id) (R := (· < ·)), map_id_frames]
  exact List.pairwise_lt_range

/-- The numbers of their callers do not fall. -/
lemma pairwise_parentId_frames : (s.frames root).Pairwise fun f g =>
    ∀ p q, f.entry.parentId = some p → g.entry.parentId = some q → p ≤ q := by
  have hids : (s.frames root).Pairwise fun f g => f.entry.id < g.entry.id := pairwise_id_frames
  have hcalls := pairwise_callsFrom (s := s) hids
  rw [frames_eq]
  apply List.pairwise_cons.mpr
  constructor
  · -- the root has no caller
    intro g _ p q hp
    cases hp
  · rw [framesBelow, List.pairwise_map]
    rw [← List.zipIdx_map_fst 1 (s.callsFrom _), List.pairwise_map] at hcalls
    apply hcalls.imp
    intro c c' hle p q hp hq
    cases hp
    cases hq
    exact hle

/-- A frame that comes later has the same caller or a later one. -/
theorem parent_le_parent {f g : Frame} (hf : f ∈ s.frames root) (hg : g ∈ s.frames root)
    (hid : f.entry.id ≤ g.entry.id) {p q : ℕ} (hp : f.entry.parentId = some p)
    (hq : g.entry.parentId = some q) : p ≤ q := by
  obtain ⟨i, hi, rfl⟩ := List.mem_iff_getElem.mp hf
  obtain ⟨j, hj, rfl⟩ := List.mem_iff_getElem.mp hg
  rw [id_getElem_frames hi, id_getElem_frames hj] at hid
  rcases Nat.lt_or_eq_of_le hid with hlt | rfl
  · exact List.pairwise_iff_getElem.mp pairwise_parentId_frames i j hi hj hlt p q hp hq
  · rw [hp] at hq
    exact (Option.some.inj hq).le

end Scope

end CallAtlas.CallStack
