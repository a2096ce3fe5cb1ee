import CallAtlas.Proofs.Graph.Bounds
import CallAtlas.Proofs.Graph.Locate
import Mathlib.Data.List.Dedup

/-!
# Paths down a call stack

A definition is followed only once on the way from the root to an entry, so a path of expanded
entries is no longer than there are keys of definitions in the model. A depth bound of this size
bounds nothing any more: no entry stands at it, and larger bounds give the same entries.

The frames carry the keys on their way from the root. That these are the keys of the entries on the
path is `PathTo.spec`; what the frames say of them is `Frame.Traced`, which every callee gets from
its caller.
-/

namespace CallAtlas

/-- The key of the definition of an entry. -/
def CallStackEntry.key? (e : CallStackEntry) : Option Text := e.definition.map Definition.key

/-- The number of different keys of definitions in a model. -/
def RepoModel.countKeys (m : RepoModel) : ℕ := (m.definitions.map Definition.key).dedup.length

/-- Different keys of a model are no more than there are. -/
lemma RepoModel.length_le_countKeys {m : RepoModel} {keys : List Text} (hnodup : keys.Nodup)
    (hkeys : ∀ k ∈ keys, k ∈ m.definitions.map Definition.key) : keys.length ≤ m.countKeys := by
  apply (List.subperm_of_subset hnodup _).length_le
  intro k hk
  exact List.mem_dedup.mpr (hkeys k hk)

namespace CallStack

/-- A path from the root to an entry. The entries above the last one are listed from its caller up
to the root. -/
inductive PathTo (s : CallStack) : List CallStackEntry → CallStackEntry → Prop
  | root {e : CallStackEntry} (mem : e ∈ s.entries) (parent : e.parentId = none) : PathTo s [] e
  | callee {above : List CallStackEntry} {caller e : CallStackEntry} (first : PathTo s above caller)
    (mem : e ∈ s.entries) (parent : e.parentId = some caller.id) : PathTo s (caller :: above) e

/-- On no path down a call stack a definition is followed twice. -/
structure FollowsOnce (s : CallStack) : Prop where
  existsUnique_path : ∀ e ∈ s.entries, ∃! above, s.PathTo above e
  length_eq_depth : ∀ {above e}, s.PathTo above e → above.length = e.depth
  /-- No key occurs twice among the entries on a path that are not cyclic. -/
  nodup_keys : ∀ {above e}, s.PathTo above e →
    (((e :: above).filter fun x => x.status ≠ .cyclic).filterMap CallStackEntry.key?).Nodup
  /-- A cyclic entry has the key of just one entry above it. -/
  count_key : ∀ {above e}, s.PathTo above e → e.status = .cyclic →
    ∃ k, e.key? = some k ∧ (above.filterMap CallStackEntry.key?).count k = 1

variable {m : RepoModel} {d d' : ℕ} {root : Definition}

/-! ## The keys above a frame -/

/-- What the keys on the way from the root to a frame are like. -/
structure Frame.Traced (m : RepoModel) (f : Frame) : Prop where
  mem_keys : ∀ k ∈ f.path, k ∈ m.definitions.map Definition.key
  length_eq : f.entry.status ≠ .unresolved → f.path.length = f.entry.depth + 1
  nodup : f.entry.status ≠ .cyclic → f.path.Nodup
  /-- The last key of a cyclic frame is among the keys before it, which are different ones. -/
  repeats : f.entry.status = .cyclic → ∃ e above, f.entry.definition = some e
    ∧ f.path = e.key :: above ∧ e.key ∈ above ∧ above.Nodup

lemma traced_rootFrame (hroot : root ∈ m.definitions) :
    ((Scope.of m d).rootFrame root).Traced m where
  mem_keys := by
    intro k hk
    rw [List.mem_singleton.mp hk]
    exact List.mem_map_of_mem hroot
  length_eq _ := rfl
  nodup _ := List.nodup_singleton _
  repeats h := by
    rw [Scope.rootFrame, Scope.rootEntry] at h
    dsimp only at h
    split at h <;> cases h

lemma mem_definitions_of_mem_calleesOf {f : Frame} {c : Callee}
    (hc : c ∈ (Scope.of m d).calleesOf f) {e : Definition} (he : c.definition = some e) :
    e ∈ m.definitions := by
  obtain ⟨caller, -, hc⟩ := Scope.exists_definition_of_mem_calleesOf hc
  obtain ⟨site, -, hc⟩ := Scope.exists_site_of_mem_callees hc
  exact mem_definitions_of_mem_calleesAt hc he

lemma Frame.status_eq_of_isOpen {f : Frame} (h : f.isOpen) : f.entry.status = .expanded :=
  beq_iff_eq.mp h

/-- The keys on the way to an open frame are different ones, one for each level. -/
lemma Frame.Traced.of_isOpen {f : Frame} (h : f.Traced m) (hopen : f.isOpen) :
    f.path.length = f.entry.depth + 1 ∧ f.path.Nodup := by
  have hstatus := f.status_eq_of_isOpen hopen
  exact ⟨h.length_eq (by rw [hstatus]; decide), h.nodup (by rw [hstatus]; decide)⟩

/-- A callee of an open frame has its key before those of its caller. -/
lemma Frame.Traced.frameOf {caller : Frame} (h : caller.Traced m) (hopen : caller.isOpen)
    {c : Callee} (hc : c ∈ (Scope.of m d).calleesOf caller) (id : ℕ) :
    ((Scope.of m d).frameOf caller id c).Traced m := by
  obtain ⟨hlength, hnodup⟩ := h.of_isOpen hopen
  cases hdef : c.definition with
  | none =>
    -- A name without a definition adds no key.
    have hstatus : ((Scope.of m d).frameOf caller id c).entry.status = .unresolved := by
      simp only [Scope.frameOf, Callee.entry, Scope.statusOf, hdef]
    have hpath : ((Scope.of m d).frameOf caller id c).path = caller.path := by
      simp only [Scope.frameOf, hdef]
    refine ⟨hpath ▸ h.mem_keys, fun hne => absurd hstatus hne, fun _ => hpath ▸ hnodup, ?_⟩
    intro hcyclic
    rw [hstatus] at hcyclic
    cases hcyclic
  | some e =>
    have hpath : ((Scope.of m d).frameOf caller id c).path = e.key :: caller.path := by
      simp only [Scope.frameOf, hdef]
    have hcyclic : ((Scope.of m d).frameOf caller id c).entry.status = .cyclic
        ↔ e.key ∈ caller.path := by
      simp only [Scope.frameOf, Callee.entry, Scope.statusOf, hdef, decide_eq_true_eq]
      by_cases hkey : e.key ∈ caller.path
      · simp [hkey]
      · simp only [hkey, if_false, iff_false]
        split <;> exact CallStackStatus.noConfusion
    refine ⟨?_, fun _ => ?_, fun hne => ?_, fun hcycle => ?_⟩
    · rw [hpath]
      intro k hk
      rcases List.mem_cons.mp hk with rfl | hk
      · exact List.mem_map_of_mem (mem_definitions_of_mem_calleesOf hc hdef)
      · exact h.mem_keys k hk
    · rw [hpath, List.length_cons, hlength]
      rfl
    · rw [hpath]
      exact List.nodup_cons.mpr ⟨fun hmem => hne (hcyclic.mpr hmem), hnodup⟩
    · exact ⟨e, caller.path, hdef, hpath, hcyclic.mp hcycle, hnodup⟩

lemma traced_of_mem_frames (hroot : root ∈ m.definitions) {f : Frame}
    (hf : f ∈ (Scope.of m d).frames root) : f.Traced m := by
  refine Scope.induction_frames (traced_rootFrame hroot) ?_ hf
  intro f _ caller _ _ hopen c hc hframe hcaller
  rw [hframe]
  exact hcaller.frameOf hopen hc _

/-- A frame whose key is a new one is less deep than there are keys. -/
lemma Frame.Traced.depth_lt {f : Frame} (h : f.Traced m) (hresolved : f.entry.status ≠ .unresolved)
    (hcyclic : f.entry.status ≠ .cyclic) : f.entry.depth < m.countKeys := by
  have hle := RepoModel.length_le_countKeys (h.nodup hcyclic) h.mem_keys
  rw [h.length_eq hresolved] at hle
  exact hle

lemma Frame.Traced.depth_lt_of_isOpen {f : Frame} (h : f.Traced m) (hopen : f.isOpen) :
    f.entry.depth < m.countKeys := by
  have hstatus := f.status_eq_of_isOpen hopen
  exact h.depth_lt (by rw [hstatus]; decide) (by rw [hstatus]; decide)

/-- No frame is deeper than there are keys. -/
theorem depth_le_countKeys (hroot : root ∈ m.definitions) {f : Frame}
    (hf : f ∈ (Scope.of m d).frames root) : f.entry.depth ≤ m.countKeys := by
  rcases Scope.eq_root_or_exists_caller hf with rfl | ⟨caller, hcaller, hopen, c, -, hframe⟩
  · exact Nat.zero_le _
  · rw [hframe]
    exact (traced_of_mem_frames hroot hcaller).depth_lt_of_isOpen hopen

/-! ## Depth bounds that bound nothing -/

/-- A frame at the depth bound is as deep as the bound. -/
lemma le_depth_of_status {f : Frame} (hf : f ∈ (Scope.of m d).frames root)
    (hstatus : f.entry.status = .depthLimit) : d ≤ f.entry.depth := by
  rcases Scope.eq_root_or_exists_caller hf with rfl | ⟨caller, -, -, c, -, hframe⟩
  · rw [Scope.rootFrame, Scope.rootEntry] at hstatus ⊢
    dsimp only at hstatus ⊢
    split at hstatus
    · next hzero => exact Nat.le_of_eq hzero
    · cases hstatus
  · rw [hframe] at hstatus ⊢
    change (Scope.of m d).statusOf (fun key => key ∈ caller.path) (caller.entry.depth + 1) c
      = .depthLimit at hstatus
    change d ≤ caller.entry.depth + 1
    unfold Scope.statusOf at hstatus
    split at hstatus
    · cases hstatus
    · split at hstatus
      · cases hstatus
      · split at hstatus
        · next hle => exact hle
        · cases hstatus

/-- No frame is at a depth bound that is as large as there are keys. -/
theorem status_ne_depthLimit (hroot : root ∈ m.definitions) (hd : m.countKeys ≤ d) {f : Frame}
    (hf : f ∈ (Scope.of m d).frames root) : f.entry.status ≠ .depthLimit := by
  intro hstatus
  have hdeep := le_depth_of_status hf hstatus
  have hlt : f.entry.depth < m.countKeys := by
    apply (traced_of_mem_frames hroot hf).depth_lt <;> rw [hstatus] <;> decide
  omega

/-- Two such bounds give a callee the same frame. -/
lemma frameOf_eq_of_traced (hd : m.countKeys ≤ d) (hd' : m.countKeys ≤ d') {caller : Frame}
    (h : caller.Traced m) (hopen : caller.isOpen) {c : Callee}
    (hc : c ∈ (Scope.of m d).calleesOf caller) (id : ℕ) :
    (Scope.of m d).frameOf caller id c = (Scope.of m d').frameOf caller id c := by
  have hstatus : (Scope.of m d).statusOf (fun key => key ∈ caller.path) (caller.entry.depth + 1) c
      = (Scope.of m d').statusOf (fun key => key ∈ caller.path) (caller.entry.depth + 1) c := by
    cases hdef : c.definition with
    | none => simp only [Scope.statusOf, hdef]
    | some e =>
      by_cases hkey : e.key ∈ caller.path
      · simp only [Scope.statusOf, hdef, hkey, decide_true, if_true]
      · -- With a new key the callee is less deep than there are keys.
        obtain ⟨hlength, hnodup⟩ := h.of_isOpen hopen
        have hle : (e.key :: caller.path).length ≤ m.countKeys := by
          apply RepoModel.length_le_countKeys (List.nodup_cons.mpr ⟨hkey, hnodup⟩)
          intro k hk
          rcases List.mem_cons.mp hk with rfl | hk
          · exact List.mem_map_of_mem (mem_definitions_of_mem_calleesOf hc hdef)
          · exact h.mem_keys k hk
        rw [List.length_cons, hlength] at hle
        have hlt : ¬ d ≤ caller.entry.depth + 1 := by omega
        have hlt' : ¬ d' ≤ caller.entry.depth + 1 := by omega
        simp only [Scope.statusOf, Scope.of, hdef, hkey, hlt, hlt', if_false]
  simp only [Scope.frameOf, hstatus]

lemma framesBelow_eq_of_traced (hd : m.countKeys ≤ d) (hd' : m.countKeys ≤ d') {fs : List Frame}
    (hfs : ∀ f ∈ fs, f.Traced m) (next : ℕ) :
    (Scope.of m d).framesBelow next fs = (Scope.of m d').framesBelow next fs := by
  rw [Scope.framesBelow, Scope.framesBelow]
  apply List.map_congr_left
  intro c hc
  obtain ⟨hcaller, hopen, hcallee⟩ :=
    (Scope.mem_callsFrom _).mp (List.fst_mem_of_mem_zipIdx hc)
  exact frameOf_eq_of_traced hd hd' (hfs _ hcaller) hopen hcallee c.2

/-- Levels of which there are more than keys are the same whatever their number. -/
lemma framesFrom_eq_of_traced (hd : m.countKeys ≤ d) (hd' : m.countKeys ≤ d')
    {levels levels' depth next : ℕ} {fs : List Frame} (hfs : ∀ f ∈ fs, f.Traced m)
    (hdepth : ∀ f ∈ fs, f.entry.depth = depth) (hlevels : m.countKeys ≤ depth + levels)
    (hlevels' : m.countKeys ≤ depth + levels') :
    (Scope.of m d).framesFrom levels next fs = (Scope.of m d').framesFrom levels' next fs := by
  -- Below a level as deep as there are keys there is nothing.
  have hnone : ∀ (b n next : ℕ) (fs : List Frame), (∀ f ∈ fs, f.Traced m) →
      (∀ f ∈ fs, m.countKeys ≤ f.entry.depth) → (Scope.of m b).framesFrom n next fs = [] := by
    intro b n next fs hfs hdeep
    cases n with
    | zero => rfl
    | succ n =>
      have hbelow : (Scope.of m b).framesBelow next fs = [] := by
        apply Scope.framesBelow_of_closed
        intro f hf hopen
        exact absurd ((hfs f hf).depth_lt_of_isOpen hopen) (Nat.not_lt.mpr (hdeep f hf))
      rw [Scope.framesFrom, hbelow]
      exact Scope.framesFrom_nil _ _ _
  induction levels generalizing levels' depth next fs with
  | zero =>
    rw [hnone d' levels' next fs hfs fun f hf => by rw [hdepth f hf]; omega]
    rfl
  | succ levels ih =>
    cases levels' with
    | zero =>
      rw [hnone d (levels + 1) next fs hfs fun f hf => by rw [hdepth f hf]; omega]
      rfl
    | succ levels' =>
      rw [Scope.framesFrom, Scope.framesFrom, framesBelow_eq_of_traced hd hd' hfs]
      congr 1
      apply ih _ (Scope.depth_of_mem_framesBelow hdepth) (by omega) (by omega)
      intro f hf
      obtain ⟨caller, hcaller, hopen, c, hc, hframe⟩ :=
        (Scope.of m d').exists_caller_of_mem_framesBelow hf
      rw [hframe]
      exact (hfs caller hcaller).frameOf hopen hc _

/-- Depth bounds that are as large as there are keys give the same frames. -/
theorem frames_eq_of_countKeys_le (hroot : root ∈ m.definitions) (hd : m.countKeys ≤ d)
    (hd' : m.countKeys ≤ d') : (Scope.of m d).frames root = (Scope.of m d').frames root := by
  have hpos : [root.key].length ≤ m.countKeys :=
    RepoModel.length_le_countKeys (List.nodup_singleton _)
      (traced_rootFrame (d := 0) hroot).mem_keys
  rw [List.length_singleton] at hpos
  have hframe : (Scope.of m d).rootFrame root = (Scope.of m d').rootFrame root := by
    have hne : d ≠ 0 := by omega
    have hne' : d' ≠ 0 := by omega
    simp only [Scope.rootFrame, Scope.rootEntry, Scope.of, hne, hne', if_false]
  have htraced : ∀ f ∈ [(Scope.of m d').rootFrame root], f.Traced m := by
    intro f hf
    rw [List.mem_singleton.mp hf]
    exact traced_rootFrame hroot
  have hbelow : (Scope.of m d).framesFrom d 1 [(Scope.of m d').rootFrame root]
      = (Scope.of m d').framesFrom d' 1 [(Scope.of m d').rootFrame root] :=
    framesFrom_eq_of_traced hd hd' htraced Scope.depth_of_mem_rootFrame (by omega) (by omega)
  rw [Scope.frames, Scope.frames, hframe]
  exact congrArg _ hbelow

/-- Such bounds give the same call stack, apart from the bound that it tells. -/
theorem expand_eq_of_countKeys_le (hroot : root ∈ m.definitions) (hd : m.countKeys ≤ d)
    (hd' : m.countKeys ≤ d') {maxNodes : ℕ} (hpos : 1 ≤ maxNodes) :
    (Scope.of m d').expand maxNodes root
      = { (Scope.of m d).expand maxNodes root with maxDepth := d' } := by
  rw [Scope.expand_eq _ hpos, Scope.expand_eq _ hpos, Scope.cutOf, Scope.cutOf,
    frames_eq_of_countKeys_le hroot hd hd']
  rfl

/-! ## Paths and frames -/

lemma key?_markCut (cutAt : Option ℕ) (e : CallStackEntry) : (markCut cutAt e).key? = e.key? := by
  rw [CallStackEntry.key?, definition_markCut, CallStackEntry.key?]

/-- Where a listing ends decides only which entries are expanded and which truncated. -/
lemma status_markCut {cutAt : Option ℕ} {e : CallStackEntry} {status : CallStackStatus}
    (hexpanded : status ≠ .expanded) (htruncated : status ≠ .truncated) :
    (markCut cutAt e).status = status ↔ e.status = status := by
  unfold markCut
  split
  · exact Iff.rfl
  · split
    · next h =>
      rw [h.1]
      exact iff_of_false htruncated.symm hexpanded.symm
    · exact Iff.rfl

lemma PathTo.mem {s : CallStack} {above : List CallStackEntry} {e : CallStackEntry}
    (h : s.PathTo above e) : e ∈ s.entries := by
  cases h with
  | root mem _ => exact mem
  | callee _ mem _ => exact mem

/-- What is above an entry is in the call stack too. -/
lemma PathTo.mem_of_mem_above {s : CallStack} {above : List CallStackEntry} {e x : CallStackEntry}
    (h : s.PathTo above e) (hx : x ∈ above) : x ∈ s.entries := by
  induction h with
  | root _ _ => cases hx
  | callee hfirst _ _ ih =>
    rcases List.mem_cons.mp hx with rfl | hx
    · exact hfirst.mem
    · exact ih hx

section

variable {maxNodes : ℕ} {above : List CallStackEntry} {e : CallStackEntry}

/-- Entries with one number are the same. -/
lemma eq_of_id_eq_of_mem_entries {s : Scope} (hpos : 1 ≤ maxNodes) {e' : CallStackEntry}
    (he : e ∈ (s.expand maxNodes root).entries) (he' : e' ∈ (s.expand maxNodes root).entries)
    (h : e.id = e'.id) : e = e' := by
  obtain ⟨f, hf, -, rfl⟩ := (Scope.mem_entries_expand hpos).mp he
  obtain ⟨f', hf', -, rfl⟩ := (Scope.mem_entries_expand hpos).mp he'
  rw [id_markCut, id_markCut] at h
  rw [Scope.eq_of_id_eq hf hf' h]

/-- There is only one path to an entry. -/
lemma PathTo.unique {s : Scope} (hpos : 1 ≤ maxNodes)
    (h : (s.expand maxNodes root).PathTo above e) {above' : List CallStackEntry}
    (h' : (s.expand maxNodes root).PathTo above' e) : above = above' := by
  induction h generalizing above' with
  | root _ hparent =>
    cases h' with
    | root _ _ => rfl
    | callee _ _ hparent' =>
      rw [hparent] at hparent'
      cases hparent'
  | callee hfirst _ hparent ih =>
    cases h' with
    | root _ hparent' =>
      rw [hparent] at hparent'
      cases hparent'
    | callee hfirst' _ hparent' =>
      rw [hparent] at hparent'
      obtain rfl := eq_of_id_eq_of_mem_entries hpos hfirst.mem hfirst'.mem
        (Option.some.inj hparent')
      rw [ih hfirst']

/-- There is a path to each entry, as callers have a place where their callees have one. -/
lemma exists_pathTo {s : Scope} (hpos : 1 ≤ maxNodes) {f : Frame} (hf : f ∈ s.frames root)
    (hid : f.entry.id < maxNodes) :
    ∃ above, (s.expand maxNodes root).PathTo above (markCut (s.cutOf maxNodes root) f.entry) := by
  have hmem : ∀ g ∈ s.frames root, g.entry.id < maxNodes →
      markCut (s.cutOf maxNodes root) g.entry ∈ (s.expand maxNodes root).entries :=
    fun g hg hlt => (Scope.mem_entries_expand hpos).mpr ⟨g, hg, hlt, rfl⟩
  refine Scope.induction_frames
    (P := fun f => f.entry.id < maxNodes → ∃ above, (s.expand maxNodes root).PathTo above
      (markCut (s.cutOf maxNodes root) f.entry)) ?_ ?_ hf hid
  · intro hlt
    refine ⟨[], .root (hmem _ ?_ hlt) ?_⟩
    · exact List.mem_cons_self
    · rw [parentId_markCut]
      rfl
  · intro f hf caller _ hbefore _ c _ hframe ih hlt
    obtain ⟨above, habove⟩ := ih (hbefore.trans hlt)
    refine ⟨_, .callee habove (hmem f hf hlt) ?_⟩
    rw [parentId_markCut, id_markCut, hframe]
    rfl

/-- The keys on a path are those that the frame of its last entry carries, and only the last entry
may be cyclic. -/
lemma PathTo.spec {s : Scope} (hpos : 1 ≤ maxNodes)
    (h : (s.expand maxNodes root).PathTo above e) :
    ∃ f ∈ s.frames root, e = markCut (s.cutOf maxNodes root) f.entry
      ∧ (e :: above).filterMap CallStackEntry.key? = f.path
      ∧ above.length = f.entry.depth
      ∧ ∀ x ∈ above, x.status ≠ .cyclic := by
  induction h with
  | root hmem hparent =>
    obtain ⟨f, hf, -, rfl⟩ := (Scope.mem_entries_expand hpos).mp hmem
    refine ⟨f, hf, rfl, ?_⟩
    rw [parentId_markCut] at hparent
    rcases Scope.eq_root_or_exists_caller hf with rfl | ⟨caller, -, -, c, -, hframe⟩
    · refine ⟨?_, rfl, fun x hx => by cases hx⟩
      rw [List.filterMap_cons, key?_markCut]
      rfl
    · rw [hframe] at hparent
      cases hparent
  | callee hfirst hmem hparent ih =>
    obtain ⟨g, hg, rfl, hkeys, hlength, hcyclic⟩ := ih
    obtain ⟨f, hf, -, rfl⟩ := (Scope.mem_entries_expand hpos).mp hmem
    refine ⟨f, hf, rfl, ?_⟩
    rw [parentId_markCut, id_markCut] at hparent
    -- An entry is known by its number, so its caller on the path is the caller of its frame.
    rcases Scope.eq_root_or_exists_caller hf with rfl | ⟨caller, hcaller, hopen, c, -, hframe⟩
    · cases hparent
    · rw [hframe] at hparent
      obtain rfl := Scope.eq_of_id_eq hcaller hg (Option.some.inj hparent)
      refine ⟨?_, ?_, ?_⟩
      · rw [List.filterMap_cons, key?_markCut, hkeys, hframe]
        simp only [CallStackEntry.key?, Scope.frameOf, Callee.entry]
        cases c.definition <;> rfl
      · rw [List.length_cons, hlength, hframe]
        rfl
      · intro x hx
        rcases List.mem_cons.mp hx with rfl | hx
        · rw [Ne, status_markCut (by decide) (by decide), caller.status_eq_of_isOpen hopen]
          decide
        · exact hcyclic x hx

end

/-- Above a cyclic entry its key comes once, as all keys there do. -/
lemma PathTo.repeats (hroot : root ∈ m.definitions) {maxNodes : ℕ} (hpos : 1 ≤ maxNodes)
    {above : List CallStackEntry} {e : CallStackEntry}
    (h : ((Scope.of m d).expand maxNodes root).PathTo above e) (hstatus : e.status = .cyclic) :
    (above.filterMap CallStackEntry.key?).Nodup
      ∧ ∃ k, e.key? = some k ∧ k ∈ above.filterMap CallStackEntry.key? := by
  obtain ⟨f, hf, rfl, hkeys, -, -⟩ := h.spec hpos
  rw [status_markCut (by decide) (by decide)] at hstatus
  obtain ⟨e, keys, hdef, hpath, hmem, hnodup⟩ := (traced_of_mem_frames hroot hf).repeats hstatus
  have hkey : f.entry.key? = some e.key := by rw [CallStackEntry.key?, hdef, Option.map_some]
  rw [List.filterMap_cons, key?_markCut, hkey, hpath] at hkeys
  obtain ⟨-, rfl⟩ := List.cons.inj hkeys
  exact ⟨hnodup, e.key, (key?_markCut _ _).trans hkey, hmem⟩

/-- No definition is followed twice on a path of a call stack. -/
theorem followsOnce_expand (hroot : root ∈ m.definitions) {maxNodes : ℕ} (hpos : 1 ≤ maxNodes) :
    ((Scope.of m d).expand maxNodes root).FollowsOnce where
  existsUnique_path := by
    intro e he
    obtain ⟨f, hf, hid, rfl⟩ := (Scope.mem_entries_expand hpos).mp he
    obtain ⟨above, habove⟩ := exists_pathTo hpos hf hid
    exact ⟨above, habove, fun above' habove' => habove'.unique hpos habove⟩
  length_eq_depth := by
    intro above e h
    obtain ⟨f, -, rfl, -, hlength, -⟩ := h.spec hpos
    exact hlength.trans (depth_markCut _ _).symm
  nodup_keys := by
    intro above e h
    obtain ⟨f, hf, he, hkeys, -, hcyclic⟩ := h.spec hpos
    have habove : above.filter (fun x => x.status ≠ .cyclic) = above :=
      List.filter_eq_self.mpr fun x hx => decide_eq_true (hcyclic x hx)
    by_cases hstatus : e.status = .cyclic
    · rw [List.filter_cons_of_neg (by simpa using hstatus), habove]
      exact (h.repeats hroot hpos hstatus).1
    · rw [List.filter_cons_of_pos (by simpa using hstatus), habove, hkeys]
      rw [he, status_markCut (by decide) (by decide)] at hstatus
      exact (traced_of_mem_frames hroot hf).nodup hstatus
  count_key := by
    intro above e h hstatus
    obtain ⟨hnodup, k, hkey, hmem⟩ := h.repeats hroot hpos hstatus
    exact ⟨k, hkey, List.count_eq_one_of_mem hnodup hmem⟩

/-! ## Requests -/

/-- In a call stack no definition is followed twice on a path, and no entry is deeper than there are
keys. With a depth bound as large as that no entry stands at the bound, and a larger one changes
nothing but the bound that is told. -/
theorem resolveJob_followsOnce {σ : Type} (m : RepoModel) (filePath : Text) (line : Number)
    (maxDepth maxNodes : ℕ) (session : Session σ) {s : CallStack}
    (h : ((resolveJob m filePath line maxDepth maxNodes).run session).1 = .ok (.ok s)) :
    s.FollowsOnce ∧ (∀ e ∈ s.entries, e.depth ≤ m.countKeys)
      ∧ (m.countKeys ≤ maxDepth →
        (∀ e ∈ s.entries, e.status ≠ .depthLimit)
        ∧ ∀ (maxDepth' : ℕ) (session' : Session σ), maxDepth ≤ maxDepth' → maxDepth' ≤ 64 →
          ((resolveJob m filePath line maxDepth' maxNodes).run session').1
            = .ok (.ok { s with maxDepth := maxDepth' })) := by
  obtain ⟨depth, nodes, hdepth, hnodes, hlimit, hpos, root, hroot, rfl⟩ :=
    exists_of_resolveJob_eq_ok h
  obtain rfl := Rat.natCast_inj.mp hdepth
  obtain rfl := Rat.natCast_inj.mp hnodes
  have hmem := RepoModel.mem_definitions_of_enclosing? hroot
  refine ⟨followsOnce_expand hmem hpos, ?_, fun hkeys => ⟨?_, ?_⟩⟩
  · intro e he
    obtain ⟨f, hf, -, rfl⟩ := (Scope.mem_entries_expand hpos).mp he
    exact (depth_markCut _ _).le.trans (depth_le_countKeys hmem hf)
  · intro e he
    obtain ⟨f, hf, -, rfl⟩ := (Scope.mem_entries_expand hpos).mp he
    rw [Ne, status_markCut (by decide) (by decide)]
    exact status_ne_depthLimit hmem hkeys hf
  · intro maxDepth' session' hle hlimit'
    rw [outcome_resolveJob m filePath line hlimit' hpos, resolveWithin, hroot]
    exact congrArg (Except.ok ∘ Except.ok)
      (expand_eq_of_countKeys_le hmem hkeys (hkeys.trans hle) hpos)

/-- Below `ping` and `pong` stands `ping` again, as a cyclic entry; more than two levels would not
be needed. -/
theorem resolveJob_followsOnce_pingPong : ∃ s : CallStack,
    ((resolveJob pingPong "./a.py" 1 (3 : ℕ) (4 : ℕ)).run
      { host := default, world := () }).1 = .ok (.ok s)
    ∧ s.entries.map CallStackEntry.status = [.expanded, .expanded, .unresolved, .cyclic]
    ∧ s.FollowsOnce ∧ pingPong.countKeys = 2
    ∧ ∀ maxDepth' : ℕ, maxDepth' ≤ 64 → 3 ≤ maxDepth' →
      ((resolveJob pingPong "./a.py" 1 maxDepth' (4 : ℕ)).run
        { host := default, world := () }).1 = .ok (.ok { s with maxDepth := maxDepth' }) := by
  have htest : (resolveWithin pingPong (Path.normalize "./a.py") 1 3 4).toOption.any fun s =>
      s.entries.map CallStackEntry.status == [.expanded, .expanded, .unresolved, .cyclic] := by
    decide +kernel
  have hkeys : pingPong.countKeys = 2 := by decide +kernel
  obtain ⟨s, hs, hstatus⟩ := exists_of_any_resolveWithin (by decide) (by decide) htest
    { host := default, world := () }
  obtain ⟨honce, -, hlarge⟩ := resolveJob_followsOnce pingPong "./a.py" 1 3 4
    { host := default, world := () } hs
  refine ⟨s, hs, beq_iff_eq.mp hstatus, honce, hkeys, ?_⟩
  intro maxDepth' hlimit hle
  exact (hlarge (by rw [hkeys]; decide)).2 maxDepth' _ hle hlimit

end CallStack

end CallAtlas
