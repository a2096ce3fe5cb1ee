import CallAtlas.Proofs.Graph.Expansion
import CallAtlas.Proofs.Graph.LevelOrder
import Mathlib.Data.List.Infix

/-!
# Larger bounds

The bounds of a call stack only end its listing earlier: with larger bounds the same entries come
first. What a bound decides besides is the status of the entries at which the listing ends. Above
the smaller depth bound the levels are the same frames, and at the bound they differ in their status
alone.
-/

namespace CallAtlas

/-- An entry apart from its status. -/
def CallStackEntry.bare (e : CallStackEntry) : CallStackEntry := { e with status := .expanded }

namespace CallStack

variable {m : RepoModel} {d d' : ℕ}

/-! ## One level within two depth bounds -/

/-- Above both depth bounds the frame of a callee is the same. -/
lemma frameOf_eq {caller : Frame} (h : caller.entry.depth + 1 < d) (h' : caller.entry.depth + 1 < d')
    (id : ℕ) (c : Callee) :
    (Scope.of m d).frameOf caller id c = (Scope.of m d').frameOf caller id c := by
  have hstatus : (Scope.of m d).statusOf (fun key => key ∈ caller.path) (caller.entry.depth + 1) c
      = (Scope.of m d').statusOf (fun key => key ∈ caller.path) (caller.entry.depth + 1) c := by
    simp only [Scope.statusOf, Scope.of, Nat.not_le.mpr h, Nat.not_le.mpr h', if_false]
  simp only [Scope.frameOf, hstatus]

/-- The entries of a level differ in their status alone. -/
lemma map_bare_framesBelow (d d' next : ℕ) (fs : List Frame) :
    ((Scope.of m d).framesBelow next fs).map (fun f => f.entry.bare)
      = ((Scope.of m d').framesBelow next fs).map fun f => f.entry.bare := by
  rw [Scope.framesBelow, Scope.framesBelow, List.map_map, List.map_map]
  rfl

/-- Above both depth bounds a level is the same. -/
lemma framesBelow_eq {next : ℕ} {fs : List Frame} (h : ∀ f ∈ fs, f.entry.depth + 1 < d)
    (h' : ∀ f ∈ fs, f.entry.depth + 1 < d') :
    (Scope.of m d).framesBelow next fs = (Scope.of m d').framesBelow next fs := by
  rw [Scope.framesBelow, Scope.framesBelow]
  apply List.map_congr_left
  intro c hc
  have hcaller := (Scope.mem_callsFrom _).mp (List.fst_mem_of_mem_zipIdx hc)
  exact frameOf_eq (h _ hcaller.1) (h' _ hcaller.1) c.2 c.1.2

/-! ## All levels -/

/-- With a larger depth bound the same levels come first, and further ones below them. -/
theorem framesFrom_prefix (levels more next : ℕ) {depth : ℕ} {fs : List Frame}
    (hdepth : ∀ f ∈ fs, f.entry.depth = depth) (hbound : depth + levels = d) :
    (((Scope.of m d).framesFrom levels next fs).map fun f => f.entry.bare)
      <+: ((Scope.of m (d + more)).framesFrom (levels + more) next fs).map
        fun f => f.entry.bare := by
  induction levels generalizing next depth fs with
  | zero => exact List.nil_prefix
  | succ levels ih =>
    rw [Nat.add_right_comm, Scope.framesFrom, Scope.framesFrom, List.map_append, List.map_append,
      map_bare_framesBelow d (d + more)]
    apply (List.prefix_append_right_inj _).mpr
    cases levels with
    | zero => exact List.nil_prefix
    | succ levels =>
      -- Another level is to come, so this one is above the bound and the same in both.
      have hbelow : (Scope.of m d).framesBelow next fs
          = (Scope.of m (d + more)).framesBelow next fs := by
        apply framesBelow_eq <;> intro f hf <;> rw [hdepth f hf] <;> omega
      rw [hbelow]
      exact ih _ (Scope.depth_of_mem_framesBelow hdepth) (by omega)

/-- Where a listing ends changes the status of entries alone. -/
lemma bare_markCut (cutAt : Option ℕ) (e : CallStackEntry) : (markCut cutAt e).bare = e.bare := by
  unfold markCut
  split
  · rfl
  · split <;> rfl

lemma id_markCut (cutAt : Option ℕ) (e : CallStackEntry) : (markCut cutAt e).id = e.id := by
  have hid := congrArg CallStackEntry.id (bare_markCut cutAt e)
  exact hid

lemma parentId_markCut (cutAt : Option ℕ) (e : CallStackEntry) :
    (markCut cutAt e).parentId = e.parentId := by
  have hparent := congrArg CallStackEntry.parentId (bare_markCut cutAt e)
  exact hparent

lemma depth_markCut (cutAt : Option ℕ) (e : CallStackEntry) :
    (markCut cutAt e).depth = e.depth := by
  have hdepth := congrArg CallStackEntry.depth (bare_markCut cutAt e)
  exact hdepth

lemma definition_markCut (cutAt : Option ℕ) (e : CallStackEntry) :
    (markCut cutAt e).definition = e.definition := by
  have hdefinition := congrArg CallStackEntry.definition (bare_markCut cutAt e)
  exact hdefinition

/-- The entries of a call stack are the first ones of those that its depth bound allows. -/
lemma map_bare_entries_expand (s : Scope) {maxNodes : ℕ} (h : 1 ≤ maxNodes) (root : Definition) :
    (s.expand maxNodes root).entries.map CallStackEntry.bare
      = ((s.frames root).map fun f => f.entry.bare).take maxNodes := by
  rw [Scope.expand_eq s h, List.map_map, List.map_take]
  simp only [Function.comp_def, bare_markCut]

/-- The call stack of a definition within some bounds is the beginning of the one within larger
bounds. -/
lemma entries_expand_prefix {maxNodes maxNodes' : ℕ} (hdepth : d ≤ d') (hpos : 1 ≤ maxNodes)
    (hnodes : maxNodes ≤ maxNodes') (root : Definition) :
    ((Scope.of m d).expand maxNodes root).entries.map CallStackEntry.bare
      <+: ((Scope.of m d').expand maxNodes' root).entries.map CallStackEntry.bare := by
  obtain ⟨more, rfl⟩ := Nat.exists_eq_add_of_le hdepth
  rw [map_bare_entries_expand _ hpos, map_bare_entries_expand _ (hpos.trans hnodes)]
  have hall : ((Scope.of m d).frames root).map (fun f => f.entry.bare)
      <+: ((Scope.of m (d + more)).frames root).map fun f => f.entry.bare := by
    rw [Scope.frames, Scope.frames, List.map_cons, List.map_cons]
    apply List.cons_prefix_cons.mpr ⟨rfl, ?_⟩
    cases d with
    | zero => exact List.nil_prefix
    | succ d =>
      have hroot : (Scope.of m (d + 1)).rootFrame root
          = (Scope.of m (d + 1 + more)).rootFrame root := by
        simp only [Scope.rootFrame, Scope.rootEntry, Scope.of, Nat.add_eq_zero_iff,
          Nat.one_ne_zero, and_false, false_and, if_false]
      rw [hroot]
      exact framesFrom_prefix (d + 1) more 1 Scope.depth_of_mem_rootFrame (Nat.zero_add _)
  exact (hall.take maxNodes).trans (List.take_prefix_take_left hnodes)

/-! ## Requests -/

/-- Of two requests for the calls at one line, the one with the larger bounds is answered by the
same entries first, apart from their status, or both find no definition there. -/
theorem entries_resolveJob_prefix {σ : Type} (m : RepoModel) (filePath : Text) (line : Number)
    {maxDepth maxDepth' maxNodes maxNodes' : ℕ} (hdepth : maxDepth ≤ maxDepth')
    (hlimit : maxDepth' ≤ 64) (hpos : 1 ≤ maxNodes) (hnodes : maxNodes ≤ maxNodes')
    (session session' : Session σ) :
    (∃ e, ((resolveJob m filePath line maxDepth maxNodes).run session).1 = .ok (.error e)
      ∧ ((resolveJob m filePath line maxDepth' maxNodes').run session').1 = .ok (.error e))
    ∨ ∃ s s' : CallStack,
      ((resolveJob m filePath line maxDepth maxNodes).run session).1 = .ok (.ok s)
      ∧ ((resolveJob m filePath line maxDepth' maxNodes').run session').1 = .ok (.ok s')
      ∧ s.entries.map CallStackEntry.bare <+: s'.entries.map CallStackEntry.bare := by
  rw [outcome_resolveJob m filePath line (hdepth.trans hlimit) hpos,
    outcome_resolveJob m filePath line hlimit (hpos.trans hnodes)]
  unfold resolveWithin
  cases m.enclosing? (Path.normalize filePath) line with
  | none => exact .inl ⟨_, rfl, rfl⟩
  | some root => exact .inr ⟨_, _, rfl, rfl, entries_expand_prefix hdepth hpos hnodes root⟩

/-- Two entries for the calls of `ping`, one level deep, are the beginning of four entries. -/
theorem entries_resolveJob_prefix_pingPong : ∃ s s' : CallStack,
    ((resolveJob pingPong "./a.py" 1 (1 : ℕ) (2 : ℕ)).run
      { host := default, world := () }).1 = .ok (.ok s)
    ∧ ((resolveJob pingPong "./a.py" 1 (3 : ℕ) (4 : ℕ)).run
      { host := default, world := () }).1 = .ok (.ok s')
    ∧ s.entries.length = 2 ∧ s'.entries.length = 4
    ∧ s.entries.map CallStackEntry.bare <+: s'.entries.map CallStackEntry.bare := by
  have hlength : ∀ (maxDepth maxNodes count : ℕ), maxDepth ≤ depthLimit → 1 ≤ maxNodes →
      (resolveWithin pingPong (Path.normalize "./a.py") 1 maxDepth maxNodes).toOption.all
        (fun s => s.entries.length = count) →
      ∀ s : CallStack, ((resolveJob pingPong "./a.py" 1 maxDepth maxNodes).run
        { host := default, world := () }).1 = .ok (.ok s) → s.entries.length = count := by
    intro maxDepth maxNodes count hdepth hnodes hall s hs
    rw [outcome_resolveJob _ _ _ hdepth hnodes] at hs
    simpa [Except.ok.inj hs, Except.toOption] using hall
  have hfound : (resolveWithin pingPong (Path.normalize "./a.py") 1 1 2).toOption.isSome := by
    decide +kernel
  have hdepth : 1 ≤ 3 := by decide
  have hnodes : 2 ≤ 4 := by decide
  rcases entries_resolveJob_prefix pingPong "./a.py" 1 hdepth (by decide) (by decide) hnodes
    { host := default, world := () } { host := default, world := () } with h | h
  · obtain ⟨e, he, -⟩ := h
    rw [outcome_resolveJob _ _ _ (by decide) (by decide)] at he
    rw [Except.ok.inj he] at hfound
    cases hfound
  · obtain ⟨s, s', hs, hs', hfirst⟩ := h
    exact ⟨s, s', hs, hs', hlength 1 2 2 (by decide) (by decide) (by decide +kernel) s hs,
      hlength 3 4 4 (by decide) (by decide) (by decide +kernel) s' hs', hfirst⟩

end CallStack

end CallAtlas
