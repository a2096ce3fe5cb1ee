import CallAtlas.Text.Basic
import Mathlib.Data.List.Basic
import Mathlib.Tactic.Common

/-!
# Texts of characters

A text is well formed if each of its surrogates is one half of a pair. These are the texts of
strings: they come back unchanged when they are read as characters, and different strings have
different texts.
-/

namespace CallAtlas

namespace Text

/-! ## Surrogates -/

lemma isHighSurrogate_iff {u : CodeUnit} :
    isHighSurrogate u = true ↔ 0xD800 ≤ u.toNat ∧ u.toNat ≤ 0xDBFF := by
  rw [isHighSurrogate, Bool.and_eq_true, decide_eq_true_eq, decide_eq_true_eq,
    UInt16.le_iff_toNat_le, UInt16.le_iff_toNat_le]
  rfl

lemma isLowSurrogate_iff {u : CodeUnit} :
    isLowSurrogate u = true ↔ 0xDC00 ≤ u.toNat ∧ u.toNat ≤ 0xDFFF := by
  rw [isLowSurrogate, Bool.and_eq_true, decide_eq_true_eq, decide_eq_true_eq,
    UInt16.le_iff_toNat_le, UInt16.le_iff_toNat_le]
  rfl

/-- Every surrogate of the text is one half of a pair. -/
inductive WellFormed : Text → Prop
  | nil : WellFormed []
  | unit {u : CodeUnit} {t : Text} (hhigh : isHighSurrogate u = false)
      (hlow : isLowSurrogate u = false) (ht : WellFormed t) : WellFormed (u :: t)
  | pair {u v : CodeUnit} {t : Text} (hhigh : isHighSurrogate u = true)
      (hlow : isLowSurrogate v = true) (ht : WellFormed t) : WellFormed (u :: v :: t)

namespace WellFormed

theorem append {s t : Text} (hs : WellFormed s) (ht : WellFormed t) : WellFormed (s ++ t) := by
  induction hs with
  | nil => exact ht
  | unit hhigh hlow _ ih => exact .unit hhigh hlow ih
  | pair hhigh hlow _ ih => exact .pair hhigh hlow ih

/-- A text without surrogates is well formed. -/
theorem of_forall {t : Text} (h : ∀ u ∈ t, isHighSurrogate u = false ∧ isLowSurrogate u = false) :
    WellFormed t := by
  induction t with
  | nil => exact .nil
  | cons u t ih =>
    obtain ⟨hhigh, hlow⟩ := h u List.mem_cons_self
    exact .unit hhigh hlow (ih fun v hv => h v (List.mem_cons_of_mem _ hv))

end WellFormed

/-! ## Code points -/

lemma codePoints_unit {u : CodeUnit} (h : isHighSurrogate u = false) (t : Text) :
    codePoints (u :: t) = u.toNat :: codePoints t := by
  cases t with
  | nil => rfl
  | cons v t => rw [codePoints, h, Bool.false_and, if_neg Bool.false_ne_true]

lemma codePoints_pair {u v : CodeUnit} (hhigh : isHighSurrogate u = true)
    (hlow : isLowSurrogate v = true) (t : Text) :
    codePoints (u :: v :: t) = pairValue u v :: codePoints t := by
  rw [codePoints, hhigh, hlow, Bool.and_self, if_pos rfl]

lemma ofCodePoint_unit (u : CodeUnit) : ofCodePoint u.toNat = [u] := by
  rw [ofCodePoint, if_pos u.toNat_lt, Nat.toUInt16_eq, UInt16.ofNat_toNat]

lemma pairValue_bounds {u v : CodeUnit} (hhigh : isHighSurrogate u = true)
    (hlow : isLowSurrogate v = true) : 0x10000 ≤ pairValue u v ∧ pairValue u v < 0x110000 := by
  obtain ⟨hu, hu'⟩ := isHighSurrogate_iff.mp hhigh
  obtain ⟨hv, hv'⟩ := isLowSurrogate_iff.mp hlow
  unfold pairValue
  omega

lemma ofCodePoint_pairValue {u v : CodeUnit} (hhigh : isHighSurrogate u = true)
    (hlow : isLowSurrogate v = true) : ofCodePoint (pairValue u v) = [u, v] := by
  obtain ⟨hu, hu'⟩ := isHighSurrogate_iff.mp hhigh
  obtain ⟨hv, hv'⟩ := isLowSurrogate_iff.mp hlow
  have hfirst : 0xD800 + (pairValue u v - 0x10000) / 0x400 = u.toNat := by
    unfold pairValue
    omega
  have hsecond : 0xDC00 + (pairValue u v - 0x10000) % 0x400 = v.toNat := by
    unfold pairValue
    omega
  rw [ofCodePoint, if_neg (Nat.not_lt.mpr (pairValue_bounds hhigh hlow).1)]
  simp only [hfirst, hsecond, Nat.toUInt16_eq, UInt16.ofNat_toNat]

/-- The number of a character is no surrogate. -/
lemma not_isSurrogate {c : ℕ} (h : c.isValidChar) :
    (decide (0xD800 ≤ c) && decide (c ≤ 0xDFFF)) = false := by
  rw [Bool.and_eq_false_iff, decide_eq_false_iff_not, decide_eq_false_iff_not]
  rcases h with h | ⟨h, -⟩ <;> omega

/-- The character of a code point. -/
lemma toNat_ofNat_of_isValidChar {c : ℕ} (h : c.isValidChar) :
    (if 0xD800 ≤ c && c ≤ 0xDFFF then Char.ofNat 0xFFFD else Char.ofNat c).toNat = c := by
  rw [not_isSurrogate h, if_neg Bool.false_ne_true, Char.ofNat, dif_pos h]
  rfl

/-- The code points of a well-formed text are no surrogates. -/
lemma WellFormed.isValidChar {t : Text} (h : WellFormed t) : ∀ c ∈ codePoints t, c.isValidChar := by
  induction h with
  | nil => simp [codePoints]
  | @unit u t hhigh hlow _ ih =>
    rw [codePoints_unit hhigh]
    intro c hc
    rcases List.mem_cons.mp hc with rfl | hc
    · have hlt := u.toNat_lt
      rw [← Bool.not_eq_true, isHighSurrogate_iff] at hhigh
      rw [← Bool.not_eq_true, isLowSurrogate_iff] at hlow
      simp only [Nat.isValidChar]
      omega
    · exact ih c hc
  | @pair u v t hhigh hlow _ ih =>
    rw [codePoints_pair hhigh hlow]
    intro c hc
    obtain ⟨hlarge, hsmall⟩ := pairValue_bounds hhigh hlow
    rcases List.mem_cons.mp hc with heq | hc
    · rw [heq]
      right
      constructor
      · exact Nat.lt_of_lt_of_le (by decide) hlarge
      · exact hsmall
    · exact ih c hc

/-- The code points of a well-formed text give the text. -/
lemma WellFormed.flatMap_codePoints {t : Text} (h : WellFormed t) :
    t.codePoints.flatMap ofCodePoint = t := by
  induction h with
  | nil => rfl
  | unit hhigh hlow _ ih =>
    rw [codePoints_unit hhigh, List.flatMap_cons, ofCodePoint_unit, ih, List.singleton_append]
  | pair hhigh hlow _ ih =>
    rw [codePoints_pair hhigh hlow, List.flatMap_cons, ofCodePoint_pairValue hhigh hlow, ih]
    rfl

/-- A well-formed text comes back from its characters. -/
theorem WellFormed.ofString_toString {t : Text} (h : WellFormed t) : ofString t.toString = t := by
  have hpoints : ∀ cs : List ℕ, (∀ c ∈ cs, c.isValidChar) →
      (cs.map fun c => if 0xD800 ≤ c && c ≤ 0xDFFF then Char.ofNat 0xFFFD else Char.ofNat c).flatMap
        (fun c => ofCodePoint c.toNat) = cs.flatMap ofCodePoint := by
    intro cs hcs
    rw [List.flatMap_map]
    apply List.flatMap_congr
    intro c hc
    rw [toNat_ofNat_of_isValidChar (hcs c hc)]
  rw [ofString, toString, String.toList_ofList, hpoints _ h.isValidChar, h.flatMap_codePoints]

/-! ## Strings -/

/-- A character has one unit, which is no surrogate, or a pair of surrogates. -/
lemma ofCodePoint_toNat (c : Char) :
    (∃ u, ofCodePoint c.toNat = [u] ∧ isHighSurrogate u = false ∧ isLowSurrogate u = false
        ∧ u.toNat = c.toNat)
      ∨ ∃ u v, ofCodePoint c.toNat = [u, v] ∧ isHighSurrogate u = true ∧ isLowSurrogate v = true
        ∧ pairValue u v = c.toNat := by
  have hvalid : c.toNat.isValidChar := c.valid
  by_cases hlt : c.toNat < 0x10000
  · left
    have hnat : c.toNat.toUInt16.toNat = c.toNat := by
      rw [Nat.toUInt16_eq, UInt16.toNat_ofNat', Nat.mod_eq_of_lt hlt]
    refine ⟨c.toNat.toUInt16, by rw [ofCodePoint, if_pos hlt], ?_, ?_, hnat⟩
    · rw [← Bool.not_eq_true, isHighSurrogate_iff, hnat]
      rcases hvalid with h | h <;> omega
    · rw [← Bool.not_eq_true, isLowSurrogate_iff, hnat]
      rcases hvalid with h | h <;> omega
  · right
    have hmax : c.toNat < 0x110000 := by rcases hvalid with h | h <;> omega
    obtain ⟨u, hu⟩ : ∃ u, u = (0xD800 + (c.toNat - 0x10000) / 0x400).toUInt16 := ⟨_, rfl⟩
    obtain ⟨v, hv⟩ : ∃ v, v = (0xDC00 + (c.toNat - 0x10000) % 0x400).toUInt16 := ⟨_, rfl⟩
    have hunat : u.toNat = 0xD800 + (c.toNat - 0x10000) / 0x400 := by
      rw [hu, Nat.toUInt16_eq, UInt16.toNat_ofNat', Nat.mod_eq_of_lt (by omega)]
    have hvnat : v.toNat = 0xDC00 + (c.toNat - 0x10000) % 0x400 := by
      rw [hv, Nat.toUInt16_eq, UInt16.toNat_ofNat', Nat.mod_eq_of_lt (by omega)]
    refine ⟨u, v, by rw [ofCodePoint, if_neg hlt, hu, hv], ?_, ?_, ?_⟩
    · rw [isHighSurrogate_iff]
      omega
    · rw [isLowSurrogate_iff]
      omega
    · unfold pairValue
      omega

/-- The units of a character are a well-formed text. -/
lemma wellFormed_ofCodePoint (c : Char) : WellFormed (ofCodePoint c.toNat) := by
  rcases ofCodePoint_toNat c with ⟨u, heq, hhigh, hlow, -⟩ | ⟨u, v, heq, hhigh, hlow, -⟩
  · rw [heq]
    exact .unit hhigh hlow .nil
  · rw [heq]
    exact .pair hhigh hlow .nil

lemma ofString_append (a b : String) : ofString (a ++ b) = ofString a ++ ofString b := by
  rw [ofString, String.toList_append, List.flatMap_append]
  rfl

/-- The text of a string is well formed. -/
theorem wellFormed_ofString (s : String) : WellFormed (ofString s) := by
  have hall : ∀ cs : List Char, WellFormed (cs.flatMap fun c => ofCodePoint c.toNat) := by
    intro cs
    induction cs with
    | nil => exact .nil
    | cons c cs ih =>
      rw [List.flatMap_cons]
      exact (wellFormed_ofCodePoint c).append ih
  exact hall s.toList

/-- The code point of a character comes back from its units. -/
lemma codePoints_ofCodePoint_append (c : Char) (t : Text) :
    codePoints (ofCodePoint c.toNat ++ t) = c.toNat :: codePoints t := by
  rcases ofCodePoint_toNat c with ⟨u, heq, hhigh, -, hvalue⟩ | ⟨u, v, heq, hhigh, hlow, hvalue⟩
  · rw [heq, List.singleton_append, codePoints_unit hhigh, hvalue]
  · rw [heq, List.cons_append, List.singleton_append, codePoints_pair hhigh hlow, hvalue]

/-- A string comes back from its text. -/
theorem toString_ofString (s : String) : (ofString s).toString = s := by
  have hpoints : ∀ cs : List Char,
      codePoints (cs.flatMap fun c => ofCodePoint c.toNat) = cs.map Char.toNat := by
    intro cs
    induction cs with
    | nil => rfl
    | cons c cs ih =>
      rw [List.flatMap_cons, codePoints_ofCodePoint_append, ih, List.map_cons]
  have hchar : ∀ c : Char, (if 0xD800 ≤ c.toNat && c.toNat ≤ 0xDFFF then Char.ofNat 0xFFFD
      else Char.ofNat c.toNat) = c := by
    intro c
    rw [not_isSurrogate (c := c.toNat) c.valid, if_neg Bool.false_ne_true, Char.ofNat_toNat]
  rw [toString, ofString, hpoints, List.map_map]
  simp only [Function.comp_def, hchar, List.map_id', String.ofList_toList]

/-- Different strings have different texts. -/
theorem ofString_injective : Function.Injective ofString :=
  Function.LeftInverse.injective toString_ofString

/-- Whether two texts of strings are the same shows in the strings. -/
@[simp] theorem ofString_beq (a b : String) : (ofString a == ofString b) = (a == b) := by
  rw [Bool.eq_iff_iff, beq_iff_eq, beq_iff_eq]
  exact ofString_injective.eq_iff

end Text

end CallAtlas
