import CallAtlas.Text.Basic
import Mathlib.Data.List.Basic
import Mathlib.Tactic.Common

/-!
# Texts in pieces

Splitting a text at a unit and joining pieces with that unit undo each other, and a text that is cut
at such a unit is split into the pieces of both parts. What is joined is made of the pieces and the
separator alone. Neighbouring pieces of a text stand in it as a block between separators or its
ends.
-/

namespace CallAtlas

namespace Text

variable {u : CodeUnit}

/-! ## Splitting -/

/-- The pieces of a text hold units of the text alone. -/
lemma mem_of_mem_splitAt {u separator : CodeUnit} {t piece : Text}
    (hpiece : piece ∈ splitAt separator t) (hu : u ∈ piece) : u ∈ t := by
  induction t generalizing piece with
  | nil =>
    obtain rfl := List.mem_singleton.mp hpiece
    cases hu
  | cons c rest ih =>
    rw [splitAt] at hpiece
    split at hpiece
    · rcases List.mem_cons.mp hpiece with rfl | hrest
      · cases hu
      · exact List.mem_cons_of_mem c (ih hrest hu)
    · split at hpiece
      · obtain rfl := List.mem_singleton.mp hpiece
        obtain rfl := List.mem_singleton.mp hu
        exact List.mem_cons_self
      · rename_i first others hsplit
        rcases List.mem_cons.mp hpiece with rfl | hothers
        · rcases List.mem_cons.mp hu with rfl | hfirst
          · exact List.mem_cons_self
          · exact List.mem_cons_of_mem c (ih (hsplit ▸ List.mem_cons_self) hfirst)
        · exact List.mem_cons_of_mem c (ih (hsplit ▸ List.mem_cons_of_mem first hothers) hu)

lemma splitAt_ne_nil (u : CodeUnit) (t : Text) : splitAt u t ≠ [] := by
  cases t with
  | nil => exact List.cons_ne_nil _ _
  | cons c rest =>
    rw [splitAt]
    split
    · exact List.cons_ne_nil _ _
    · split
      · exact List.cons_ne_nil _ _
      · exact List.cons_ne_nil _ _

lemma splitAt_of_notMem {t : Text} (h : u ∉ t) : splitAt u t = [t] := by
  induction t with
  | nil => rfl
  | cons c rest ih =>
    obtain ⟨hc, hrest⟩ := List.ne_and_not_mem_of_not_mem_cons h
    rw [splitAt, if_neg (Ne.symm hc), ih hrest]

lemma splitAt_append_cons (a b : Text) : splitAt u (a ++ u :: b) = splitAt u a ++ splitAt u b := by
  induction a with
  | nil => exact if_pos rfl
  | cons c rest ih =>
    rw [List.cons_append, splitAt, splitAt, ih]
    split
    · rfl
    · cases hsplit : splitAt u rest with
      | nil => exact absurd hsplit (splitAt_ne_nil u rest)
      | cons first others => rfl

/-- The pieces do not hold what they are split at. -/
lemma notMem_of_mem_splitAt {t piece : Text} (h : piece ∈ splitAt u t) : u ∉ piece := by
  induction t generalizing piece with
  | nil =>
    obtain rfl := List.mem_singleton.mp h
    exact List.not_mem_nil
  | cons c rest ih =>
    rw [splitAt] at h
    split at h
    · rcases List.mem_cons.mp h with rfl | hrest
      · exact List.not_mem_nil
      · exact ih hrest
    · next hc =>
      cases hsplit : splitAt u rest with
      | nil => exact absurd hsplit (splitAt_ne_nil u rest)
      | cons first others =>
        rw [hsplit] at h ih
        rcases List.mem_cons.mp h with rfl | hothers
        · intro hu
          rcases List.mem_cons.mp hu with rfl | hfirst
          · exact hc rfl
          · exact ih List.mem_cons_self hfirst
        · exact ih (List.mem_cons_of_mem first hothers)

/-- There is one piece more than there are places to split at. -/
lemma length_splitAt (u : CodeUnit) (t : Text) : (splitAt u t).length = t.count u + 1 := by
  induction t with
  | nil => rfl
  | cons c rest ih =>
    rw [splitAt]
    by_cases hc : c = u
    · rw [if_pos hc, hc, List.count_cons_self, List.length_cons, ih]
    · -- The unit goes to the first piece of the rest, so that there are as many as before.
      rw [if_neg hc, List.count_cons_of_ne hc, ← ih]
      cases hsplit : splitAt u rest with
      | nil => exact absurd hsplit (splitAt_ne_nil u rest)
      | cons first others => rfl

/-- A text that contains another one has it between two parts. -/
lemma exists_append_of_contains {needle t : Text} (h : contains needle t = true) :
    ∃ before after, t = before ++ (needle ++ after) := by
  induction t with
  | nil => exact ⟨[], [], by rw [List.isEmpty_iff.mp h]; rfl⟩
  | cons c rest ih =>
    rw [contains, Bool.or_eq_true, List.isPrefixOf_iff_prefix] at h
    rcases h with ⟨after, hafter⟩ | hrest
    · exact ⟨[], after, hafter.symm⟩
    · obtain ⟨before, after, hparts⟩ := ih hrest
      exact ⟨c :: before, after, congrArg (c :: ·) hparts⟩

/-! ## Joining -/

lemma join_cons (separator piece : Text) {pieces : List Text} (h : pieces ≠ []) :
    join separator (piece :: pieces) = piece ++ separator ++ join separator pieces := by
  cases pieces with
  | nil => exact absurd rfl h
  | cons p rest => rfl

/-- Pieces that are joined apart stand with a separator between them. -/
lemma join_append (separator : Text) {pieces more : List Text} (hpieces : pieces ≠ [])
    (hmore : more ≠ []) :
    join separator (pieces ++ more)
      = join separator pieces ++ separator ++ join separator more := by
  induction pieces with
  | nil => exact absurd rfl hpieces
  | cons p rest ih =>
    by_cases hrest : rest = []
    · rw [hrest, List.singleton_append, join_cons separator p hmore]
      rfl
    · rw [List.cons_append, join_cons separator p (List.append_ne_nil_of_left_ne_nil hrest _),
        ih hrest, join_cons separator p hrest]
      simp only [List.append_assoc]

/-- A unit of joined pieces belongs to a piece or to the separator. -/
lemma mem_join {u : CodeUnit} {separator : Text} {pieces : List Text}
    (h : u ∈ join separator pieces) : u ∈ separator ∨ ∃ piece ∈ pieces, u ∈ piece := by
  induction pieces with
  | nil => cases h
  | cons piece rest ih =>
    by_cases hrest : rest = []
    · rw [hrest] at h
      exact .inr ⟨piece, List.mem_cons_self, h⟩
    · rw [join_cons separator piece hrest, List.mem_append, List.mem_append] at h
      rcases h with (hpiece | hseparator) | hmore
      · exact .inr ⟨piece, List.mem_cons_self, hpiece⟩
      · exact .inl hseparator
      · rcases ih hmore with hseparator | ⟨other, hother, hu⟩
        · exact .inl hseparator
        · exact .inr ⟨other, List.mem_cons_of_mem piece hother, hu⟩

/-! ## Splitting and joining -/

/-- The pieces of a text give the text again. -/
lemma join_splitAt (u : CodeUnit) (t : Text) : join [u] (splitAt u t) = t := by
  induction t with
  | nil => rfl
  | cons c rest ih =>
    rw [splitAt]
    by_cases hc : c = u
    · rw [if_pos hc, join_cons [u] [] (splitAt_ne_nil u rest), ih, hc]
      rfl
    · rw [if_neg hc]
      cases hsplit : splitAt u rest with
      | nil => exact absurd hsplit (splitAt_ne_nil u rest)
      | cons first others =>
        rw [hsplit] at ih
        -- The unit goes to the first piece, whether others follow it or not.
        cases others with
        | nil => rw [← ih]; rfl
        | cons next others => rw [← ih]; rfl

/-- Joined pieces are those that the text is split into. -/
lemma splitAt_join {pieces : List Text} (hne : pieces ≠ []) (h : ∀ piece ∈ pieces, u ∉ piece) :
    splitAt u (join [u] pieces) = pieces := by
  induction pieces with
  | nil => exact absurd rfl hne
  | cons piece rest ih =>
    obtain ⟨hpiece, hrest⟩ := List.forall_mem_cons.mp h
    by_cases hnil : rest = []
    · rw [hnil]
      exact splitAt_of_notMem hpiece
    · rw [join_cons [u] piece hnil, List.append_assoc, List.singleton_append, splitAt_append_cons,
        splitAt_of_notMem hpiece, ih hnil hrest]
      rfl

lemma count_join {pieces : List Text} (hne : pieces ≠ []) (h : ∀ piece ∈ pieces, u ∉ piece) :
    (join [u] pieces).count u + 1 = pieces.length := by
  rw [← length_splitAt, splitAt_join hne h]

/-! ## Blocks -/

/-- A part of a text that begins at the beginning of the text or behind a separator, and ends at its
end or before a separator. -/
structure IsBlock (u : CodeUnit) (t before block after : Text) : Prop where
  eq : t = before ++ (block ++ after)
  before_eq : before = [] ∨ before.getLast? = some u
  after_eq : after = [] ∨ after.head? = some u

lemma exists_join_append {pieces more : List Text} (hpieces : pieces ≠ [])
    (h : ∀ piece ∈ more, u ∉ piece) :
    ∃ after, join [u] (pieces ++ more) = join [u] pieces ++ after
      ∧ (after = [] ∨ after.head? = some u) ∧ after.count u = more.length := by
  by_cases hmore : more = []
  · rw [hmore, List.append_nil]
    exact ⟨[], (List.append_nil _).symm, .inl rfl, rfl⟩
  · refine ⟨u :: join [u] more, ?_, .inr rfl, ?_⟩
    · rw [join_append [u] hpieces hmore, List.append_assoc]
      rfl
    · rw [List.count_cons_self, count_join hmore h]

lemma exists_append_join {pieces more : List Text} (hmore : more ≠ [])
    (h : ∀ piece ∈ pieces, u ∉ piece) :
    ∃ before, join [u] (pieces ++ more) = before ++ join [u] more
      ∧ (before = [] ∨ before.getLast? = some u) ∧ before.count u = pieces.length := by
  by_cases hpieces : pieces = []
  · rw [hpieces]
    exact ⟨[], rfl, .inl rfl, rfl⟩
  · refine ⟨join [u] pieces ++ [u], join_append [u] hpieces hmore, .inr List.getLast?_concat, ?_⟩
    rw [List.count_append, List.count_singleton_self, count_join hpieces h]

/-- Neighbouring pieces of a text are a block of it. -/
theorem exists_isBlock {t : Text} {before block after : List Text} (hblock : block ≠ [])
    (h : splitAt u t = before ++ (block ++ after)) :
    ∃ front back, IsBlock u t front (join [u] block) back
      ∧ front.count u = before.length ∧ back.count u = after.length := by
  have hpieces : ∀ piece ∈ before ++ (block ++ after), u ∉ piece := fun piece hpiece =>
    notMem_of_mem_splitAt (h ▸ hpiece)
  obtain ⟨hbefore, hrest⟩ := List.forall_mem_append.mp hpieces
  -- What is behind the block is cut off first, and then what is before it.
  obtain ⟨back, hback, hend, hcount⟩ :=
    exists_join_append hblock (List.forall_mem_append.mp hrest).2
  obtain ⟨front, hfront, hbegin, hcount'⟩ :=
    exists_append_join (List.append_ne_nil_of_left_ne_nil hblock after) hbefore
  refine ⟨front, back, ⟨?_, hbegin, hend⟩, hcount', hcount⟩
  rw [← join_splitAt u t, h, hfront, hback]

end Text

end CallAtlas
