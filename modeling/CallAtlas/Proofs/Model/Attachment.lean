import CallAtlas.Proofs.Model.Nesting
import CallAtlas.Proofs.Number.Shortest

/-!
# The definitions that hold the calls

Of nested ranges that cover a line each contains the next one, so the shortest is the last of them,
also where lengths are rounded. Every call is held by one definition: by that of the last
declaration that covers its line, or else by that of the module.
-/

namespace CallAtlas

namespace LineRange

/-! ## The innermost range -/

/-- A range is not longer than one that contains it. -/
lemma span_le_span {outer inner : LineRange} (h : outer.Contains inner) : inner.span ≤ outer.span :=
  Number.minus_le_minus h.2 h.1

lemma covers_iff {r : LineRange} {line : Number} :
    r.covers line = true ↔ r.first ≤ line ∧ line ≤ r.last := by
  rw [covers, Bool.and_eq_true, decide_eq_true_eq, decide_eq_true_eq]

/-- Of two fitting ranges that cover a line the first one contains the other. -/
lemma contains_of_covers {a b : LineRange} {line : Number} (hprecedes : a.Precedes b)
    (hfits : a.Fits b) (ha : a.covers line = true) (hb : b.covers line = true) : a.Contains b := by
  rw [covers_iff] at ha hb
  exact hfits.contains_of_precedes hprecedes (not_lt.mpr (hb.1.trans ha.2)) (hb.1.trans hb.2)

variable {α : Type} {range : α → LineRange} {items : List α}

/-- Nested ranges one after the other: the last one is the best. -/
lemma foldl_innermostStep {best : α} (h : (best :: items).Pairwise fun a b =>
    (range a).Contains (range b)) :
    items.foldl (innermostStep range) (some best) = (best :: items).getLast? := by
  induction items generalizing best with
  | nil => rfl
  | cons x rest ih =>
    obtain ⟨hbest, hrest⟩ := List.pairwise_cons.mp h
    have hstep : innermostStep range (some best) x = some x :=
      if_pos (span_le_span (hbest x List.mem_cons_self))
    rw [List.foldl_cons, hstep, ih hrest, List.getLast?_cons_cons]

/-- The innermost of fitting ranges in order is the last one that covers the line. -/
theorem innermost?_eq_getLast? (hprecedes : items.Pairwise fun a b => (range a).Precedes (range b))
    (hfits : items.Pairwise fun a b => (range a).Fits (range b)) (line : Number) :
    innermost? range items line = (items.filter fun x => (range x).covers line).getLast? := by
  have hnested : (items.filter fun x => (range x).covers line).Pairwise fun a b =>
      (range a).Contains (range b) := by
    rw [List.pairwise_filter]
    apply (hprecedes.and hfits).imp
    intro a b h ha hb
    exact contains_of_covers h.1 h.2 ha hb
  rw [innermost?]
  cases hcovering : items.filter fun x => (range x).covers line with
  | nil => rfl
  | cons x rest =>
    rw [hcovering] at hnested
    exact foldl_innermostStep hnested

end LineRange

namespace Assembly

open LineRange

variable {filePath : Text} {lineCount : Number} {kept declarations : List Declaration}
  {calls : List CallSite} {c : CallSite}

/-! ## Owners -/

/-- A call belongs to the last declaration that covers its line. -/
lemma ownerOf_settle (c : CallSite) :
    ownerOf (settle lineCount declarations) c
      = ((settle lineCount declarations).zipIdx.filter
          fun p => p.1.range.covers c.line).getLast? := by
  have hzip : ∀ {S : LineRange → LineRange → Prop},
      (settle lineCount declarations).Pairwise (fun a b => S a.range b.range) →
      (settle lineCount declarations).zipIdx.Pairwise fun p q => S p.1.range q.1.range := by
    intro S h
    rw [← List.zipIdx_map_fst 0 (settle lineCount declarations), List.pairwise_map] at h
    exact h
  exact innermost?_eq_getLast? (hzip (settle_pairwise_precedes _ _))
    (hzip (settle_pairwise_fits _ _)) c.line

/-- A call belongs to no declaration if none covers its line. -/
lemma ownerOf_settle_eq_none_iff :
    ownerOf (settle lineCount declarations) c = none
      ↔ ∀ d ∈ settle lineCount declarations, d.range.covers c.line = false := by
  rw [ownerOf_settle, List.getLast?_eq_none_iff, List.filter_eq_nil_iff]
  constructor
  · intro h d hd
    rw [← List.zipIdx_map_fst 0 (settle lineCount declarations)] at hd
    obtain ⟨p, hp, rfl⟩ := List.mem_map.mp hd
    exact Bool.eq_false_of_not_eq_true (h p hp)
  · intro h p hp
    rw [h p.1 (List.fst_mem_of_mem_zipIdx hp)]
    exact Bool.false_ne_true

/-- The declaration that a call belongs to covers its line. It lies inside all others that do, and
it is the last of them. -/
lemma owner_spec {i : ℕ} (h : (ownerOf (settle lineCount declarations) c).map Prod.snd = some i) :
    ∃ d, (settle lineCount declarations)[i]? = some d ∧ d.range.covers c.line = true
      ∧ ∀ j e, (settle lineCount declarations)[j]? = some e → e.range.covers c.line = true →
          e.range.Contains d.range ∧ j ≤ i := by
  obtain ⟨p, howner, rfl⟩ := Option.map_eq_some_iff.mp h
  rw [ownerOf_settle] at howner
  obtain ⟨hmem, hcovers⟩ := List.mem_filter.mp (List.mem_of_getLast? howner)
  have hd := List.mem_zipIdx_iff_getElem?.mp hmem
  refine ⟨p.1, hd, hcovers, fun j e he hcovers' => ?_⟩
  -- Numbers grow along the declarations, and the owner is the last one that covers the line.
  have hle : j ≤ p.2 := by
    have hnumbers : (settle lineCount declarations).zipIdx.Pairwise fun a b => a.2 < b.2 := by
      rw [← List.pairwise_map (f := Prod.snd) (R := (· < ·)), List.zipIdx_map_snd]
      exact List.pairwise_lt_range'
    obtain ⟨before, heq⟩ := List.getLast?_eq_some_iff.mp howner
    have hsorted := hnumbers.filter fun a => a.1.range.covers c.line
    have hin : (e, j) ∈ (settle lineCount declarations).zipIdx.filter
        fun a => a.1.range.covers c.line :=
      List.mem_filter.mpr ⟨List.mem_zipIdx_iff_getElem?.mpr he, hcovers'⟩
    rw [heq] at hsorted hin
    rcases List.mem_append.mp hin with hbefore | hlast
    · exact ((List.pairwise_append.mp hsorted).2.2 _ hbefore p (List.mem_singleton_self p)).le
    · rw [← List.mem_singleton.mp hlast]
  refine ⟨?_, hle⟩
  rcases hle.eq_or_lt with rfl | hlt
  · rw [Option.some.inj (he.symm.trans hd)]
    exact ⟨le_rfl, le_rfl⟩
  · -- One that comes before it and shares a line with it can fit only by containing it.
    obtain ⟨hj, rfl⟩ := List.getElem?_eq_some_iff.mp he
    obtain ⟨hi, heq⟩ := List.getElem?_eq_some_iff.mp hd
    have hprecedes := List.pairwise_iff_getElem.mp (settle_pairwise_precedes lineCount declarations)
      j p.2 hj hi hlt
    have hfits := List.pairwise_iff_getElem.mp (settle_pairwise_fits lineCount declarations)
      j p.2 hj hi hlt
    rw [heq] at hprecedes hfits
    exact contains_of_covers hprecedes hfits hcovers' hcovers

lemma mem_callsOf {number : Option ℕ} :
    c ∈ callsOf kept calls number ↔ c ∈ calls ∧ (ownerOf kept c).map Prod.snd = number := by
  rw [callsOf, orderCalls, List.mem_mergeSort, List.mem_filter, beq_iff_eq]

/-! ## The definitions by their places -/

lemma getElem?_declaredDefinitions (filePath : Text) (kept : List Declaration)
    (calls : List CallSite) (i : ℕ) :
    (declaredDefinitions filePath kept calls)[i]?
      = kept[i]?.map fun d => define filePath d (callsOf kept calls (some i)) := by
  rw [declaredDefinitions, List.getElem?_map, List.getElem?_zipIdx, Option.map_map, Nat.zero_add]
  rfl

/-- A definition other than that of the module is of a declaration that is kept. -/
lemma exists_of_getElem?_definitions {i : ℕ} {d : Definition}
    (hd : (definitions filePath lineCount declarations calls)[i]? = some d)
    (hmodule : d.isModule = false) :
    ∃ k x,
      i = (moduleDefinitions filePath lineCount (settle lineCount declarations) calls).length + k
      ∧ (settle lineCount declarations)[k]? = some x
      ∧ d = define filePath x (callsOf (settle lineCount declarations) calls (some k)) := by
  rw [definitions_eq] at hd
  rcases Nat.lt_or_ge i (moduleDefinitions filePath lineCount (settle lineCount declarations)
      calls).length with hlt | hge
  · rw [List.getElem?_append_left hlt] at hd
    have hmem := List.mem_of_getElem? hd
    rw [moduleDefinitions] at hmem
    split at hmem
    · cases hmem
    · rw [List.mem_singleton.mp hmem] at hmodule
      cases hmodule
  · rw [List.getElem?_append_right hge, getElem?_declaredDefinitions] at hd
    obtain ⟨x, hx, rfl⟩ := Option.map_eq_some_iff.mp hd
    exact ⟨_, x, (Nat.add_sub_of_le hge).symm, hx, rfl⟩

/-- Which definitions there are besides that of the module. -/
lemma mem_definitions_iff {d : Definition} (hmodule : d.isModule = false) :
    d ∈ definitions filePath lineCount declarations calls
      ↔ ∃ k x, (settle lineCount declarations)[k]? = some x
        ∧ d = define filePath x (callsOf (settle lineCount declarations) calls (some k)) := by
  constructor
  · intro hd
    obtain ⟨i, hi⟩ := List.mem_iff_getElem?.mp hd
    obtain ⟨k, x, -, hx, hdefine⟩ := exists_of_getElem?_definitions hi hmodule
    exact ⟨k, x, hx, hdefine⟩
  · rintro ⟨k, x, hx, rfl⟩
    rw [definitions_eq]
    apply List.mem_append_right
    apply List.mem_of_getElem? (i := k)
    rw [getElem?_declaredDefinitions, hx]
    rfl

/-- There is a definition for the module if calls are outside all declarations, and it holds
these. -/
lemma mem_definitions_module_iff {d : Definition} (hmodule : d.isModule = true) :
    d ∈ definitions filePath lineCount declarations calls
      ↔ callsOf (settle lineCount declarations) calls none ≠ []
        ∧ d = moduleDefinition filePath lineCount
            (callsOf (settle lineCount declarations) calls none) := by
  have hdeclared : d ∉ declaredDefinitions filePath (settle lineCount declarations) calls := by
    intro hd
    obtain ⟨p, -, rfl⟩ := List.mem_map.mp hd
    cases hmodule
  rw [definitions_eq, List.mem_append, or_iff_left hdeclared, moduleDefinitions]
  split
  · next hempty =>
    rw [List.isEmpty_iff] at hempty
    exact ⟨fun hd => absurd hd List.not_mem_nil, fun h => absurd hempty h.1⟩
  · next hsome =>
    rw [List.isEmpty_iff] at hsome
    rw [List.mem_singleton]
    exact ⟨fun hd => ⟨hsome, hd⟩, And.right⟩

/-- No declaration that is kept covers a line if no definition but that of the module does. -/
lemma forall_settle_iff {line : Number} :
    (∀ d ∈ settle lineCount declarations, d.range.covers line = false)
      ↔ ∀ e ∈ definitions filePath lineCount declarations calls, e.isModule = false →
          e.range.covers line = false := by
  constructor
  · intro h e he hmodule
    obtain ⟨k, x, hx, rfl⟩ := (mem_definitions_iff hmodule).mp he
    exact h x (List.mem_of_getElem? hx)
  · intro h d hd
    obtain ⟨k, hk⟩ := List.mem_iff_getElem?.mp hd
    exact h _ ((mem_definitions_iff rfl).mpr ⟨k, d, hk, rfl⟩) rfl

/-- The definition of the module is not the last one that covers a line if another one does. -/
lemma isModule_of_getLast? {line : Number} {d e : Definition}
    (hd : ((definitions filePath lineCount declarations calls).filter
      fun d => d.range.covers line).getLast? = some d)
    (he : e ∈ definitions filePath lineCount declarations calls) (hmodule : e.isModule = false)
    (hcovers : e.range.covers line = true) : d.isModule = false := by
  have hdeclared : e ∈ (definitions filePath lineCount declarations calls).filter
      fun d => !d.isModule :=
    List.mem_filter.mpr ⟨he, by rw [hmodule]; rfl⟩
  rw [filter_definitions] at hdeclared
  rw [definitions_eq, List.filter_append, List.getLast?_append_of_ne_nil] at hd
  · obtain ⟨p, -, rfl⟩ := List.mem_map.mp (List.mem_of_mem_filter (List.mem_of_getLast? hd))
    rfl
  · exact List.ne_nil_of_mem (List.mem_filter.mpr ⟨hdeclared, hcovers⟩)

/-! ## All calls -/

/-- The calls of the definitions of a file, one definition after the other. -/
lemma flatMap_calls_definitions (filePath : Text) (lineCount : Number)
    (declarations : List Declaration) (calls : List CallSite) :
    (definitions filePath lineCount declarations calls).flatMap Definition.calls
      = (none :: (List.range (settle lineCount declarations).length).map some).flatMap
          (callsOf (settle lineCount declarations) calls) := by
  set kept := settle lineCount declarations with hkept
  have hmodule : (moduleDefinitions filePath lineCount kept calls).flatMap Definition.calls
      = callsOf kept calls none := by
    rw [moduleDefinitions]
    split
    · next hempty => exact (List.isEmpty_iff.mp hempty).symm
    · exact List.flatMap_singleton _ _
  have hdeclared : (declaredDefinitions filePath kept calls).flatMap Definition.calls
      = ((List.range kept.length).map some).flatMap (callsOf kept calls) := by
    rw [declaredDefinitions, List.flatMap_map, List.flatMap_map, List.range_eq_range',
      ← List.zipIdx_map_snd, List.flatMap_map]
    rfl
  rw [definitions_eq, List.flatMap_append, ← hkept, hmodule, hdeclared, ← List.flatMap_cons]

/-- No number of a definition is there twice. -/
lemma nodup_numbers (n : ℕ) : (none :: (List.range n).map some).Nodup := by
  rw [List.nodup_cons]
  exact ⟨by simp, List.nodup_range.map (Option.some_injective _)⟩

/-- The definitions hold all calls. -/
lemma perm_flatMap_calls (filePath : Text) (lineCount : Number) (declarations : List Declaration)
    (calls : List CallSite) :
    ((definitions filePath lineCount declarations calls).flatMap Definition.calls).Perm calls := by
  set kept := settle lineCount declarations with hkept
  rw [flatMap_calls_definitions, ← hkept]
  have hsorted : ((none :: (List.range kept.length).map some).flatMap (callsOf kept calls)).Perm
      ((none :: (List.range kept.length).map some).flatMap fun number =>
        calls.filter fun c => (ownerOf kept c).map Prod.snd == number) :=
    List.Perm.flatMap_left _ fun _ _ => List.mergeSort_perm _ _
  refine hsorted.trans (perm_flatMap_filter (nodup_numbers _) ?_)
  intro c _
  cases howner : (ownerOf kept c).map Prod.snd with
  | none => exact List.mem_cons_self
  | some i =>
    obtain ⟨d, hd, -⟩ := owner_spec howner
    have hi : i < kept.length := (List.getElem?_eq_some_iff.mp hd).1
    exact List.mem_cons_of_mem _ (List.mem_map_of_mem (List.mem_range.mpr hi))

/-! ## The order of calls -/

/-- The first call stands before the second one, or both are at one place. -/
def Before (a b : CallSite) : Prop := a.line < b.line ∨ a.line = b.line ∧ a.column ≤ b.column

lemma callBefore_iff {a b : CallSite} : callBefore a b = true ↔ Before a b := by
  rw [callBefore, Bool.or_eq_true, Bool.and_eq_true, decide_eq_true_eq, decide_eq_true_eq,
    beq_iff_eq, Before]

lemma callBefore_trans (a b c : CallSite) (hab : callBefore a b = true)
    (hbc : callBefore b c = true) : callBefore a c = true := by
  rw [callBefore_iff] at hab hbc ⊢
  rcases hab with hab | ⟨hab, hab'⟩
  · rcases hbc with hbc | ⟨hbc, -⟩
    · exact .inl (hab.trans hbc)
    · exact .inl (hbc ▸ hab)
  · rcases hbc with hbc | ⟨hbc, hbc'⟩
    · exact .inl (hab ▸ hbc)
    · exact .inr ⟨hab.trans hbc, hab'.trans hbc'⟩

lemma callBefore_total (a b : CallSite) : (callBefore a b || callBefore b a) = true := by
  rw [Bool.or_eq_true, callBefore_iff, callBefore_iff]
  rcases lt_trichotomy a.line b.line with h | h | h
  · exact .inl (.inl h)
  · exact (le_total a.column b.column).imp (fun hle => .inr ⟨h, hle⟩) fun hle => .inr ⟨h.symm, hle⟩
  · exact .inr (.inl h)

lemma callsOf_pairwise (kept : List Declaration) (calls : List CallSite) (number : Option ℕ) :
    (callsOf kept calls number).Pairwise Before :=
  (List.pairwise_mergeSort callBefore_trans callBefore_total _).imp callBefore_iff.mp

/-- Calls at one place stay together and keep their order. -/
lemma filter_callsOf {number : Option ℕ} (hc : c ∈ callsOf kept calls number) :
    ((callsOf kept calls number).filter fun a => a.line = c.line ∧ a.column = c.column)
      = calls.filter fun a => a.line = c.line ∧ a.column = c.column := by
  have howner := (mem_callsOf.mp hc).2
  rw [callsOf, orderCalls, filter_mergeSort callBefore_trans callBefore_total, List.filter_filter]
  · apply List.filter_congr
    intro a _
    rw [Bool.and_eq_left_iff_imp, decide_eq_true_eq, beq_iff_eq, ← howner]
    rintro ⟨hline, -⟩
    rw [ownerOf, hline, ownerOf]
  · intro a b ha hb
    rw [decide_eq_true_eq] at ha hb
    exact callBefore_iff.mpr (.inr ⟨ha.1.trans hb.1.symm, (ha.2.trans hb.2.symm).le⟩)

/-- The calls of a definition are those of one owner. -/
lemma exists_calls_eq_callsOf {d : Definition}
    (hd : d ∈ definitions filePath lineCount declarations calls) :
    ∃ number, d.calls = callsOf (settle lineCount declarations) calls number := by
  cases hmodule : d.isModule with
  | true => exact ⟨none, by rw [((mem_definitions_module_iff hmodule).mp hd).2]; rfl⟩
  | false =>
    obtain ⟨k, x, -, rfl⟩ := (mem_definitions_iff hmodule).mp hd
    exact ⟨some k, rfl⟩

/-! ## Holders -/

/-- The definition that holds a call. -/
def holder (filePath : Text) (lineCount : Number) (kept : List Declaration)
    (calls : List CallSite) (c : CallSite) : Definition :=
  match ownerOf kept c with
  | some p => define filePath p.1 (callsOf kept calls (some p.2))
  | none => moduleDefinition filePath lineCount (callsOf kept calls none)

lemma mem_calls_holder (hc : c ∈ calls) :
    c ∈ (holder filePath lineCount kept calls c).calls := by
  rw [holder]
  split
  · next howner => exact mem_callsOf.mpr ⟨hc, by rw [howner]; rfl⟩
  · next howner => exact mem_callsOf.mpr ⟨hc, by rw [howner]; rfl⟩

/-- A call is held by its holder alone. -/
lemma eq_holder_of_mem_calls {d : Definition}
    (hd : d ∈ definitions filePath lineCount declarations calls) (hc : c ∈ d.calls) :
    d = holder filePath lineCount (settle lineCount declarations) calls c := by
  cases hmodule : d.isModule with
  | true =>
    obtain ⟨-, rfl⟩ := (mem_definitions_module_iff hmodule).mp hd
    have howner := Option.map_eq_none_iff.mp (mem_callsOf.mp hc).2
    rw [holder, howner]
  | false =>
    obtain ⟨k, x, hx, rfl⟩ := (mem_definitions_iff hmodule).mp hd
    obtain ⟨p, howner, rfl⟩ := Option.map_eq_some_iff.mp (mem_callsOf.mp hc).2
    have hmem := howner
    rw [ownerOf_settle] at hmem
    have hp := List.mem_zipIdx_iff_getElem?.mp (List.mem_of_mem_filter (List.mem_of_getLast? hmem))
    rw [holder, howner, Option.some.inj (hx.symm.trans hp)]

/-- The holder of a call in the file is the last definition that covers its line. -/
lemma getLast?_filter_covers (filePath : Text) (declarations : List Declaration) (hc : c ∈ calls)
    (hfirst : 1 ≤ c.line) (hlast : c.line ≤ max 1 lineCount) :
    ((definitions filePath lineCount declarations calls).filter
        fun d => d.range.covers c.line).getLast?
      = some (holder filePath lineCount (settle lineCount declarations) calls c) := by
  have hdeclared : ((declaredDefinitions filePath (settle lineCount declarations) calls).filter
        fun d => d.range.covers c.line).getLast?
      = (ownerOf (settle lineCount declarations) c).map fun p =>
          define filePath p.1 (callsOf (settle lineCount declarations) calls (some p.2)) := by
    rw [ownerOf_settle, declaredDefinitions, List.filter_map, List.getLast?_map]
    rfl
  -- The module comes first, so it is the last only if no declaration covers the line.
  rw [definitions_eq, List.filter_append, List.getLast?_append, hdeclared, holder]
  split
  · next howner =>
    rw [howner]
    rfl
  · next howner =>
    have hsome : ¬(callsOf (settle lineCount declarations) calls none).isEmpty := by
      rw [List.isEmpty_iff]
      exact List.ne_nil_of_mem (mem_callsOf.mpr ⟨hc, Option.map_eq_none_iff.mpr howner⟩)
    have hcovers : (moduleDefinition filePath lineCount
        (callsOf (settle lineCount declarations) calls none)).range.covers c.line = true := by
      refine covers_iff.mpr ⟨hfirst, ?_⟩
      rw [← lastLine_eq_max] at hlast
      exact hlast
    rw [howner, moduleDefinitions, if_neg hsome, List.filter_singleton, hcovers]
    rfl

/-- The definitions hold all calls, none twice. Each call is held by the shortest definition of a
declaration that covers its line, the last one of equally short ones, and by that of the module if
there is none. There is a definition for the module if there are such calls. Each definition holds
its calls by their places, and those at one place in the order in which they were found. -/
theorem calls_held (filePath : Text) (lineCount : Number) (declarations : List Declaration)
    (calls : List CallSite) :
    let ds := definitions filePath lineCount declarations calls
    (ds.flatMap Definition.calls).Perm calls
    ∧ (∀ (i : ℕ) (d : Definition), ds[i]? = some d → d.isModule = false → ∀ c ∈ d.calls,
        d.range.covers c.line = true
        ∧ ∀ (j : ℕ) (e : Definition), ds[j]? = some e → e.isModule = false →
            e.range.covers c.line = true →
            d.endLine - d.startLine ≤ e.endLine - e.startLine
            ∧ (e.endLine - e.startLine = d.endLine - d.startLine → j ≤ i))
    ∧ (∀ c ∈ calls, (∃ d ∈ ds, d.isModule = true ∧ c ∈ d.calls)
        ↔ ∀ e ∈ ds, e.isModule = false → e.range.covers c.line = false)
    ∧ ((∃ d ∈ ds, d.isModule = true)
        ↔ ∃ c ∈ calls, ∀ e ∈ ds, e.isModule = false → e.range.covers c.line = false)
    ∧ ∀ d ∈ ds, d.calls.Pairwise Before
        ∧ ∀ c ∈ d.calls, (d.calls.filter fun a => a.line = c.line ∧ a.column = c.column)
            = calls.filter fun a => a.line = c.line ∧ a.column = c.column := by
  intro ds
  have houtside : ∀ c, c ∈ callsOf (settle lineCount declarations) calls none
      ↔ c ∈ calls ∧ ∀ e ∈ ds, e.isModule = false → e.range.covers c.line = false := by
    intro c
    rw [mem_callsOf, Option.map_eq_none_iff, ownerOf_settle_eq_none_iff, forall_settle_iff]
  refine ⟨perm_flatMap_calls _ _ _ _, ?_, ?_, ?_, ?_⟩
  · intro i d hd hmodule c hc
    obtain ⟨k, x, rfl, hx, rfl⟩ := exists_of_getElem?_definitions hd hmodule
    obtain ⟨y, hy, hcovers, hothers⟩ := owner_spec (mem_callsOf.mp hc).2
    obtain rfl := Option.some.inj (hx.symm.trans hy)
    refine ⟨hcovers, fun j e he hmodule' hcovers' => ?_⟩
    obtain ⟨l, z, rfl, hz, rfl⟩ := exists_of_getElem?_definitions he hmodule'
    obtain ⟨hcontains, hle⟩ := hothers l z hz hcovers'
    exact ⟨sub_le_sub hcontains.2 hcontains.1, fun _ => Nat.add_le_add_left hle _⟩
  · intro c hc
    constructor
    · rintro ⟨d, hd, hmodule, hheld⟩
      rw [((mem_definitions_module_iff hmodule).mp hd).2] at hheld
      exact ((houtside c).mp hheld).2
    · intro hnone
      have hheld := (houtside c).mpr ⟨hc, hnone⟩
      exact ⟨_, (mem_definitions_module_iff rfl).mpr ⟨List.ne_nil_of_mem hheld, rfl⟩, rfl, hheld⟩
  · constructor
    · rintro ⟨d, hd, hmodule⟩
      obtain ⟨c, hc⟩ := List.exists_mem_of_ne_nil _ ((mem_definitions_module_iff hmodule).mp hd).1
      exact ⟨c, (houtside c).mp hc⟩
    · rintro ⟨c, hc⟩
      have hheld := (houtside c).mpr hc
      exact ⟨_, (mem_definitions_module_iff rfl).mpr ⟨List.ne_nil_of_mem hheld, rfl⟩, rfl⟩
  · intro d hd
    obtain ⟨number, hcalls⟩ := exists_calls_eq_callsOf hd
    rw [hcalls]
    exact ⟨callsOf_pairwise _ _ _, fun c hc => filter_callsOf hc⟩

end Assembly

end CallAtlas
