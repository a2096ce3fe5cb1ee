import CallAtlas.Proofs.Model.Attachment

/-!
# The canonical form of a file

What is assembled from an outline says all there is to say: the definitions of a file, taken as
declarations again with the calls they hold, are assembled to the same definitions. Where no two
declarations have one range and no two calls have one place, nothing of the order in which they
were found is left.
-/

namespace CallAtlas

/-- The declaration that a definition is of; the one for the module is of none. -/
def Definition.declaration? (d : Definition) : Option Declaration :=
  match d.kind with
  | .declared kind => some ⟨kind, d.name, d.className, d.startLine, d.endLine⟩
  | .module => none

/-- A declaration as its definition has it: an empty name of a class is no class. -/
def Declaration.restated (d : Declaration) : Declaration := { d with className := d.owner? }

namespace Declaration

@[simp]
lemma range_restated (d : Declaration) : d.restated.range = d.range := rfl

@[simp]
lemma owner?_restated (d : Declaration) : d.restated.owner? = d.owner? := by
  rw [owner?, restated, owner?, Option.filter_filter]
  simp only [Bool.and_self]

@[simp]
lemma qualifiedName_restated (d : Declaration) : d.restated.qualifiedName = d.qualifiedName := by
  rw [qualifiedName, owner?_restated]
  rfl

end Declaration

namespace Assembly

open LineRange

variable {lineCount : Number} {declarations declarations' : List Declaration}
  {calls calls' : List CallSite}

/-! ## Declarations that are settled already -/

/-- A number between its bounds is not moved. -/
lemma clamp_of_mem {n low high : Number} (hlow : low ≤ n) (hhigh : n ≤ high) :
    clamp n low high = n := by
  rw [clamp, Number.atMost, Number.atLeast, if_neg (not_lt.mpr hlow), if_neg (not_lt.mpr hhigh)]

/-- A declaration in the file is not moved. -/
lemma clampDeclaration_of_within {d : Declaration} (h : d.range.Within lineCount) :
    clampDeclaration lineCount d = d := by
  obtain ⟨hone, hlines, hlast⟩ := h
  rw [← lastLine_eq_max] at hlast
  have hfirst : clamp d.startLine 1 (lastLine lineCount) = d.startLine :=
    clamp_of_mem hone (hlines.trans hlast)
  have hend : clamp d.endLine d.startLine (lastLine lineCount) = d.endLine :=
    clamp_of_mem hlines hlast
  rw [clampDeclaration, hfirst, hend]

/-- Declarations in the file that say different things and fit together all become definitions. -/
theorem settle_eq_order (hwithin : ∀ d ∈ declarations, d.range.Within lineCount)
    (hnodup : (declarations.map identity).Nodup)
    (hfits : declarations.Pairwise fun a b => a.range.Fits b.range) :
    settle lineCount declarations = order declarations := by
  have hclamped : declarations.map (clampDeclaration lineCount) = declarations :=
    (List.map_congr_left fun d hd => clampDeclaration_of_within (hwithin d hd)).trans
      (List.map_id' declarations)
  have hordered : (order declarations).Pairwise fun a b => a.range.Fits b.range :=
    (List.mergeSort_perm _ _).symm.pairwise hfits fun h => h.symm
  rw [settle_eq_keepFitting, hclamped, firstsBy_of_nodup hnodup,
    keepFitting_of_pairwise (fun k hk => (List.not_mem_nil hk).elim) hordered]

/-! ## Assembling definitions again -/

/-- The definitions of a file, taken as declarations. -/
lemma filterMap_declaration?_definitions (filePath : Text) (lineCount : Number)
    (declarations : List Declaration) (calls : List CallSite) :
    (definitions filePath lineCount declarations calls).filterMap Definition.declaration?
      = (settle lineCount declarations).map Declaration.restated := by
  have hmodule : ∀ kept, (moduleDefinitions filePath lineCount kept calls).filterMap
      Definition.declaration? = [] := by
    intro kept
    unfold moduleDefinitions
    split <;> rfl
  have hdeclared : ∀ kept, (declaredDefinitions filePath kept calls).filterMap
      Definition.declaration? = kept.map Declaration.restated := by
    intro kept
    conv_rhs => rw [← List.zipIdx_map_fst 0 kept]
    rw [declaredDefinitions, List.filterMap_map, List.map_map, ← List.filterMap_eq_map]
    rfl
  rw [definitions_eq, List.filterMap_append, hmodule, hdeclared, List.nil_append]

/-- What became definitions once becomes definitions again. -/
theorem settle_restated (lineCount : Number) (declarations : List Declaration) :
    settle lineCount ((settle lineCount declarations).map Declaration.restated)
      = (settle lineCount declarations).map Declaration.restated := by
  rw [settle_eq_order, order, List.mergeSort_of_pairwise]
  · rw [List.pairwise_map]
    exact (settle_pairwise_precedes _ _).imp outerFirst_iff.mpr
  · intro d hd
    obtain ⟨e, he, rfl⟩ := List.mem_map.mp hd
    rw [Declaration.range_restated]
    exact within_settle he
  · have hidentity : identity ∘ Declaration.restated = identity := by
      funext d
      rw [Function.comp_apply, identity, Declaration.qualifiedName_restated]
      rfl
    rw [List.map_map, hidentity]
    exact nodup_map_identity_settle _ _
  · rw [List.pairwise_map]
    exact settle_pairwise_fits _ _

/-- A call belongs to the same declaration when this is stated again. -/
lemma map_snd_ownerOf_restated (c : CallSite) :
    (ownerOf ((settle lineCount declarations).map Declaration.restated) c).map Prod.snd
      = (ownerOf (settle lineCount declarations) c).map Prod.snd := by
  rw [← settle_restated, ownerOf_settle, settle_restated, ownerOf_settle, List.zipIdx_map,
    List.filter_map, List.getLast?_map, Option.map_map]
  rfl

/-- The calls of one number are found again among those of all definitions. -/
lemma callsOf_flatMap_calls (filePath : Text) {number : Option ℕ}
    (hnumber : number ∈
      none :: (List.range (settle lineCount declarations).length).map some) :
    callsOf ((settle lineCount declarations).map Declaration.restated)
        ((definitions filePath lineCount declarations calls).flatMap Definition.calls) number
      = callsOf (settle lineCount declarations) calls number := by
  have hsorted := (callsOf_pairwise (settle lineCount declarations) calls number).imp
    callBefore_iff.mpr
  rw [callsOf]
  simp only [map_snd_ownerOf_restated]
  rw [flatMap_calls_definitions, filter_flatMap_eq (nodup_numbers _) hnumber, orderCalls,
    List.mergeSort_of_pairwise hsorted]
  · exact fun c hc => beq_iff_eq.mpr (mem_callsOf.mp hc).2
  · intro k _ hne c hc
    rw [(mem_callsOf.mp hc).2]
    exact beq_eq_false_iff_ne.mpr hne

/-- The definitions of a file are a fixed point of their assembly: taken as declarations again, with
the calls that they hold one after the other, they give the same definitions in the same order, each
with the same calls. -/
theorem definitions_assembled_again (filePath : Text) (lineCount : Number)
    (declarations : List Declaration) (calls : List CallSite) :
    let ds := definitions filePath lineCount declarations calls
    definitions filePath lineCount (ds.filterMap Definition.declaration?)
        (ds.flatMap Definition.calls) = ds := by
  intro ds
  have hcalls : ∀ number ∈ none :: (List.range (settle lineCount declarations).length).map some,
      callsOf ((settle lineCount declarations).map Declaration.restated)
          (ds.flatMap Definition.calls) number
        = callsOf (settle lineCount declarations) calls number :=
    fun number hnumber => callsOf_flatMap_calls filePath hnumber
  rw [definitions_eq, filterMap_declaration?_definitions, settle_restated]
  conv_rhs => rw [show ds = _ from definitions_eq filePath lineCount declarations calls]
  congr 1
  · unfold moduleDefinitions
    rw [hcalls none List.mem_cons_self]
  · rw [declaredDefinitions, declaredDefinitions, List.zipIdx_map, List.map_map]
    apply List.map_congr_left
    intro p hp
    have hlt : p.2 < (settle lineCount declarations).length := List.snd_lt_of_mem_zipIdx hp
    have hnumber := List.mem_cons_of_mem none
      (List.mem_map_of_mem (f := some) (List.mem_range.mpr hlt))
    rw [Function.comp_apply, Prod.map_snd, id_eq, hcalls _ hnumber, Prod.map_fst, define, define,
      Declaration.owner?_restated, Declaration.qualifiedName_restated]
    rfl

/-! ## The order in which things are found -/

/-- Declarations with one place in the order have one range. -/
lemma range_eq_of_outerFirst {a b : Declaration} (hab : outerFirst a b = true)
    (hba : outerFirst b a = true) : a.range = b.range := by
  rw [outerFirst_iff] at hab hba
  rcases hab with hab | ⟨hfirst, hlast⟩
  · exact absurd hba.first_le (not_le.mpr hab)
  · rcases hba with hba | ⟨-, hlast'⟩
    · exact absurd hfirst.le (not_le.mpr hba)
    · rw [Declaration.range, Declaration.range, LineRange.mk.injEq]
      exact ⟨hfirst, le_antisymm hlast' hlast⟩

/-- Declarations of different ranges become the same definitions in whatever order they come. -/
theorem settle_eq_of_perm
    (hranges : (declarations.map fun d => (clampDeclaration lineCount d).range).Nodup)
    (h : declarations.Perm declarations') :
    settle lineCount declarations = settle lineCount declarations' := by
  have hclamped :
      ((declarations.map (clampDeclaration lineCount)).map Declaration.range).Nodup := by
    rw [List.map_map]
    exact hranges
  have hall : ∀ {ds : List Declaration},
      (ds.map Declaration.range).Nodup → dropRepeated ds = ds := by
    intro ds hds
    have hidentity : ((ds.map identity).map fun i => i.2.2).Nodup := by
      rw [List.map_map]
      exact hds
    rw [dropRepeated_eq, firstsBy_of_nodup (hidentity.of_map _)]
  have hperm := h.map (clampDeclaration lineCount)
  have hclamped' := (hperm.map Declaration.range).nodup_iff.mp hclamped
  rw [settle, settle, hall hclamped, hall hclamped', order, order,
    mergeSort_eq_of_perm outerFirst_trans outerFirst_total (fun _ _ => range_eq_of_outerFirst)
      hclamped hperm]

/-- The place of a call. -/
def placeOf (c : CallSite) : Number × Number := (c.line, c.column)

/-- Calls with one place in the order are at one place. -/
lemma placeOf_eq_of_callBefore {a b : CallSite} (hab : callBefore a b = true)
    (hba : callBefore b a = true) : placeOf a = placeOf b := by
  rw [callBefore_iff] at hab hba
  rcases hab with hab | ⟨hline, hcolumn⟩
  · rcases hba with hba | ⟨hline, -⟩
    · exact absurd hab (not_lt.mpr hba.le)
    · exact absurd hline.le (not_le.mpr hab)
  · rcases hba with hba | ⟨-, hcolumn'⟩
    · exact absurd hline.le (not_le.mpr hba)
    · exact Prod.ext hline (le_antisymm hcolumn hcolumn')

/-- Calls at different places are shared out the same way in whatever order they come. -/
lemma callsOf_eq_of_perm (hplaces : (calls.map placeOf).Nodup) (h : calls.Perm calls')
    (kept : List Declaration) (number : Option ℕ) :
    callsOf kept calls number = callsOf kept calls' number := by
  apply mergeSort_eq_of_perm callBefore_trans callBefore_total
    (fun _ _ => placeOf_eq_of_callBefore) _ (h.filter _)
  exact hplaces.sublist (List.filter_sublist.map placeOf)

/-- Where no two declarations have one range in the file and no two calls are at one place, the
definitions of a file do not depend on the order in which declarations and calls are found. -/
theorem definitions_eq_of_perm {filePath : Text}
    (hranges : (declarations.map fun d => (clampDeclaration lineCount d).range).Nodup)
    (hplaces : (calls.map fun c => (c.line, c.column)).Nodup)
    (hdeclarations : declarations.Perm declarations') (hcalls : calls.Perm calls') :
    definitions filePath lineCount declarations calls
      = definitions filePath lineCount declarations' calls' := by
  have hheld := callsOf_eq_of_perm hplaces hcalls (settle lineCount declarations')
  rw [definitions_eq, definitions_eq, settle_eq_of_perm hranges hdeclarations]
  congr 1
  · unfold moduleDefinitions
    rw [hheld]
  · unfold declaredDefinitions
    simp only [hheld]

/-- Three declarations, two of which overlap partially, and two calls, each in another order. -/
theorem definitions_eq_of_perm_overlapping :
    let f : Declaration := ⟨.function, Text.ofString "f", none, 3, 9⟩
    let g : Declaration := ⟨.class, Text.ofString "G", none, 0, 4⟩
    let h : Declaration := ⟨.method, Text.ofString "h", some (Text.ofString "G"), 2, 3⟩
    let a : CallSite := ⟨Text.ofString "f", Text.ofString "f", 3, 8⟩
    let b : CallSite := ⟨Text.ofString "h", Text.ofString "self.h", 3, 4⟩
    ([f, g, h].map fun d => (clampDeclaration 7 d).range).Nodup
      ∧ ([a, b].map fun c => (c.line, c.column)).Nodup
      ∧ [f, g, h].Perm [h, f, g] ∧ [a, b].Perm [b, a]
      ∧ definitions (Text.ofString "a.py") 7 [f, g, h] [a, b]
          = definitions (Text.ofString "a.py") 7 [h, f, g] [b, a] := by
  intro f g h a b
  have hranges : ([f, g, h].map fun d => (clampDeclaration 7 d).range).Nodup := by decide
  have hplaces : ([a, b].map fun c => (c.line, c.column)).Nodup := by decide
  have hdeclarations : [f, g, h].Perm [h, f, g] := by decide
  have hcalls : [a, b].Perm [b, a] := by decide
  exact ⟨hranges, hplaces, hdeclarations, hcalls,
    definitions_eq_of_perm hranges hplaces hdeclarations hcalls⟩

end Assembly

end CallAtlas
