import CallAtlas.Regex.Reader
import Mathlib.Data.List.Basic

/-!
# Units in a row

A text of letters, digits and underscores is read as its units in a row. Where case does not count,
such a row matches the texts with the same capitals.
-/

namespace CallAtlas.Regex

/-- The units of a text in a row, with an expression behind them. -/
def units (t : Text) (behind : Regex) : Regex := t.foldr (fun u r => .seq (.unit u) r) behind

/-! ## Reading -/

section Reading

variable {fuel : ℕ} {u : CodeUnit} {rest after behind t : Text} {r s : Regex}
  {names names' names'' : GroupNames}

/-- A row of terms is a term with a row of terms behind it. -/
lemma sequence_cons (hu : (u = Text.unit '|' || u = Text.unit ')') = false)
    (hterm : (term fuel u rest).run names = .ok ((r, after), names'))
    (hsequence : (sequence fuel after).run names' = .ok ((s, behind), names'')) :
    (sequence (fuel + 1) (u :: rest)).run names = .ok ((.seq r s, behind), names'') := by
  simp only [sequence, hu, Bool.false_eq_true, if_false, StateT.run_bind, hterm]
  show ((sequence fuel after).run names' >>= _) = _
  rw [hsequence]
  rfl

lemma ne_of_word {v : CodeUnit} (hu : UnitClass.word.contains u = true)
    (hv : UnitClass.word.contains v = false) : u ≠ v := by
  rintro rfl
  rw [hu] at hv
  cases hv

lemma quantifier?_of_word (hu : UnitClass.word.contains u = true) :
    quantifier? (u :: rest) = none := by
  simp only [quantifier?, ne_of_word hu (v := Text.unit '*') (by decide),
    ne_of_word hu (v := Text.unit '+') (by decide), ne_of_word hu (v := Text.unit '?') (by decide),
    ne_of_word hu (v := Text.unit '\x7b') (by decide), if_false]

/-- A letter, a digit or an underscore stands for itself. -/
lemma term_word (hu : UnitClass.word.contains u = true) (hrest : quantifier? rest = none) :
    (term (fuel + 1) u rest).run names = .ok ((.unit u, rest), names) := by
  simp only [term, ne_of_word hu (v := Text.unit '^') (by decide),
    ne_of_word hu (v := Text.unit '$') (by decide), ne_of_word hu (v := Text.dot) (by decide),
    ne_of_word hu (v := Text.unit '[') (by decide),
    ne_of_word hu (v := Text.backslash) (by decide),
    ne_of_word hu (v := Text.unit '(') (by decide), if_false, quantifier?_of_word hu,
    Option.isSome_none, Bool.false_eq_true, quantified, hrest]
  rfl

/-- A text of letters, digits and underscores is read as its units in a row. -/
lemma sequence_units {w : Text} (hw : ∀ u ∈ w, UnitClass.word.contains u = true)
    (ht : quantifier? t = none)
    (hsequence : (sequence (fuel + 1) t).run names = .ok ((s, behind), names')) :
    (sequence (fuel + w.length + 1) (w ++ t)).run names = .ok ((units w s, behind), names') := by
  induction w with
  | nil => exact hsequence
  | cons u w ih =>
    have hu := hw u List.mem_cons_self
    have hrest : ∀ v ∈ w, UnitClass.word.contains v = true := fun v hv =>
      hw v (List.mem_cons_of_mem u hv)
    have hquantifier : quantifier? (w ++ t) = none := by
      cases w with
      | nil => exact ht
      | cons v w => exact quantifier?_of_word (hrest v List.mem_cons_self)
    have hends : (u = Text.unit '|' || u = Text.unit ')') = false := by
      simp [ne_of_word hu (v := Text.unit '|') (by decide),
        ne_of_word hu (v := Text.unit ')') (by decide)]
    exact sequence_cons hends (term_word hu hquantifier) (ih hrest)

lemma keeping_units (numbers : List ℕ) (t : Text) (r : Regex) :
    (units t r).keeping numbers = units t (r.keeping numbers) := by
  induction t with
  | nil => rfl
  | cons u t ih => exact congrArg (Regex.seq (.unit u)) ih

end Reading

/-! ## Matching -/

section Matching

variable {foldCase : Bool} {input : Array CodeUnit} {t : Text} {r s : Regex} {p q : Progress}

lemma exists_of_mem_ends_seq (h : q ∈ ends foldCase input (.seq r s) p) :
    ∃ m, m ∈ ends foldCase input r p ∧ q ∈ ends foldCase input s m := by
  rw [ends, List.mem_eraseDups, List.mem_flatMap] at h
  exact h

lemma eq_of_mem_ends_empty (h : q ∈ ends foldCase input .empty p) : q = p :=
  List.mem_singleton.mp h

lemma of_mem_ends_finish (h : q ∈ ends foldCase input .finish p) :
    q = p ∧ p.place = input.size := by
  simp only [ends, placeIf] at h
  split at h
  · exact ⟨List.mem_singleton.mp h, beq_iff_eq.mp ‹_›⟩
  · cases h

lemma capital_eq_of_sameUnit {u v : CodeUnit} (h : sameUnit true u v = true) :
    Text.capital v = Text.capital u := by
  rcases Bool.or_eq_true _ _ |>.mp h with h | h
  · rw [beq_iff_eq.mp h]
  · exact (beq_iff_eq.mp h).symm

lemma of_mem_ends_unit {u : CodeUnit} (h : q ∈ ends true t.toArray (.unit u) p) :
    ∃ v, Text.capital v = Text.capital u ∧ t.drop p.place = v :: t.drop q.place := by
  simp only [ends, oneUnit] at h
  split at h
  · rename_i v hv
    split at h
    · obtain rfl := List.mem_singleton.mp h
      obtain ⟨hplace, rfl⟩ := Array.getElem?_eq_some_iff.mp hv
      exact ⟨_, capital_eq_of_sameUnit ‹_›, List.drop_eq_getElem_cons hplace⟩
    · cases h
  · cases h

/-- Where case does not count, units in a row match a text with the same capitals. -/
lemma exists_of_mem_ends_units {w : Text} (h : q ∈ ends true t.toArray (units w r) p) :
    ∃ v m, v.map Text.capital = w.map Text.capital ∧ t.drop p.place = v ++ t.drop m.place
      ∧ q ∈ ends true t.toArray r m := by
  induction w generalizing p with
  | nil => exact ⟨[], p, rfl, rfl, h⟩
  | cons u w ih =>
    obtain ⟨n, hn, hq⟩ := exists_of_mem_ends_seq h
    obtain ⟨v, hcapital, hdrop⟩ := of_mem_ends_unit hn
    obtain ⟨vs, m, hcapitals, hdrops, hm⟩ := ih hq
    refine ⟨v :: vs, m, ?_, ?_, hm⟩
    · rw [List.map_cons, List.map_cons, hcapital, hcapitals]
    · rw [hdrop, hdrops, List.cons_append]

/-- A unit that may be missing. -/
lemma of_mem_ends_optional {u : CodeUnit}
    (h : q ∈ ends true t.toArray (.repeated (.unit u) 0 (some 1)) p) :
    q = p ∨ ∃ v, Text.capital v = Text.capital u ∧ t.drop p.place = v :: t.drop q.place := by
  have hmore : min (1 - 0) (t.toArray.size + 1) = 1 := by
    omega
  simp only [ends, inside, hmore, Nat.zero_min, iterate, iterate.onward] at h
  split at h
  · exact .inl (List.mem_singleton.mp h)
  · rcases List.mem_append.mp h with h | h
    · exact .inl (List.mem_singleton.mp h)
    · have hunit := (List.mem_filter.mp h).1
      rw [List.mem_eraseDups, List.flatMap_singleton] at hunit
      exact .inr (of_mem_ends_unit (p := p.without []) hunit)

lemma exists_of_test (h : r.test foldCase t = true) :
    ∃ p q, q ∈ ends foldCase t.toArray r p := by
  obtain ⟨i, -, hi⟩ := List.any_eq_true.mp h
  obtain ⟨q, hq, -⟩ := List.any_eq_true.mp hi
  exact ⟨_, q, hq⟩

end Matching

end CallAtlas.Regex
