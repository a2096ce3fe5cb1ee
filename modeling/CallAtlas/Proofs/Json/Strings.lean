import CallAtlas.Json.Printer
import CallAtlas.Json.Reader
import CallAtlas.Proofs.Text.Characters

/-!
# Strings in documents

Every text, with quotes, control characters and surrogates that stand alone, is read back from
between its quotes. What stands there is a well-formed text, so that it is also what a file gives
back after it was written.
-/

namespace CallAtlas

namespace Json

/-! ## Escapes -/

lemma hexValue_hexDigit {n : ℕ} (h : n < 16) : hexValue (hexDigit n) = some n := by
  have hall : ∀ d : Fin 16, hexValue (hexDigit d) = some d.val := by decide
  exact hall ⟨n, h⟩

/-- A unit that is escaped by its number is read back. -/
lemma readString_hexEscape (acc : Text) (u : CodeUnit) (rest : Text) :
    readString acc (hexEscape u ++ rest) = readString (u :: acc) rest := by
  have hlt := u.toNat_lt
  have hdigits : u.toNat / 4096 % 16 * 4096 + u.toNat / 256 % 16 * 256 + u.toNat / 16 % 16 * 16
      + u.toNat % 16 = u.toNat := by omega
  have hvalue : ∀ n, hexValue (hexDigit (n % 16)) = some (n % 16) := fun n =>
    hexValue_hexDigit (Nat.mod_lt n (by decide))
  have hback : (Text.backslash == 0x22) = false := by decide
  have hno : ¬ Text.backslash < (0x20 : CodeUnit) := by decide
  have hletter : (Text.unit 'u' == 0x75) = true := by decide
  have hslash : (Text.backslash == 0x5C) = true := by decide
  rw [hexEscape]
  simp only [List.cons_append, List.nil_append, readString, hback, hno, hletter, hslash, hvalue,
    hdigits, if_true, if_false, Bool.false_eq_true, Nat.toUInt16_eq, UInt16.ofNat_toNat]

/-- The letter of a short escape stands for the unit. -/
lemma unescape?_of_shortEscape? {u : CodeUnit} {c : Char} (h : shortEscape? u = some c) :
    (Text.unit c == 0x75) = false ∧ unescape? (Text.unit c) = some u := by
  unfold shortEscape? at h
  split_ifs at h with h1 h2 h3 h4 h5 h6 h7
  all_goals
    obtain rfl := Option.some.inj h
    simp only [beq_iff_eq] at *
    subst u
    decide

/-- A unit that has no short escape stands for itself, unless it is a control character. -/
lemma ne_of_shortEscape?_eq_none {u : CodeUnit} (h : shortEscape? u = none) :
    (u == 0x22) = false ∧ (u == 0x5C) = false := by
  unfold shortEscape? at h
  split_ifs at h with h1 h2
  exact ⟨Bool.eq_false_iff.mpr h1, Bool.eq_false_iff.mpr h2⟩

/-- A unit from a string that is not escaped is read as itself. -/
lemma readString_cons {u : CodeUnit} (hquote : (u == 0x22) = false) (hcontrol : ¬ u < 0x20)
    (hslash : (u == 0x5C) = false) (acc rest : Text) :
    readString acc (u :: rest) = readString (u :: acc) rest := by
  rw [readString.eq_def]
  simp only [hquote, hcontrol, hslash, if_false, Bool.false_eq_true]

lemma readString_escapeUnit (asciiOnly : Bool) (acc : Text) (u : CodeUnit) (rest : Text) :
    readString acc (escapeUnit asciiOnly u ++ rest) = readString (u :: acc) rest := by
  unfold escapeUnit
  split
  · next c hc =>
    obtain ⟨hletter, hvalue⟩ := unescape?_of_shortEscape? hc
    have hback : (Text.backslash == 0x22) = false := by decide
    have hno : ¬ Text.backslash < (0x20 : CodeUnit) := by decide
    have hslash : (Text.backslash == 0x5C) = true := by decide
    rw [List.cons_append, List.singleton_append, readString.eq_def]
    simp only [hback, hno, hslash, hletter, hvalue, if_true, if_false, Bool.false_eq_true]
  · next hnone =>
    obtain ⟨hquote, hslash⟩ := ne_of_shortEscape?_eq_none hnone
    split
    · exact readString_hexEscape acc u rest
    · next hplain =>
      rw [Bool.or_eq_true, not_or, decide_eq_true_eq] at hplain
      exact readString_cons hquote hplain.1 hslash acc rest

/-- A quote ends a string. -/
lemma readString_quote (acc rest : Text) :
    readString acc (0x22 :: rest) = some (acc.reverse, rest) := by
  rw [readString.eq_def]
  rfl

/-- A surrogate is neither a quote nor a backslash nor a control character. -/
lemma readString_surrogate {u : CodeUnit}
    (h : Text.isHighSurrogate u = true ∨ Text.isLowSurrogate u = true) (acc rest : Text) :
    readString acc (u :: rest) = readString (u :: acc) rest := by
  have hlarge : 0xD800 ≤ u.toNat := by
    rcases h with h | h
    · exact (Text.isHighSurrogate_iff.mp h).1
    · have hlow := (Text.isLowSurrogate_iff.mp h).1
      omega
  apply readString_cons
  · rw [beq_eq_false_iff_ne]
    rintro rfl
    exact absurd hlarge (by decide)
  · rw [UInt16.lt_iff_toNat_lt]
    have hspace : (0x20 : CodeUnit).toNat = 32 := rfl
    omega
  · rw [beq_eq_false_iff_ne]
    rintro rfl
    exact absurd hlarge (by decide)

/-- Every text is read back up to the quote that ends it. -/
theorem readString_escape (asciiOnly : Bool) (s acc rest : Text) :
    readString acc (escape asciiOnly s ++ 0x22 :: rest) = some (acc.reverse ++ s, rest) := by
  induction s using escape.induct generalizing acc with
  | case1 =>
    rw [escape, List.nil_append, readString_quote, List.append_nil]
  | case2 u h =>
    rw [escape, if_pos h, readString_hexEscape, readString_quote, List.reverse_cons]
  | case3 u h =>
    rw [escape, if_neg h, readString_escapeUnit, readString_quote, List.reverse_cons]
  | case4 u v t h ih =>
    rw [Bool.and_eq_true] at h
    have hpair : readString acc ((if asciiOnly then hexEscape u ++ hexEscape v else [u, v])
        ++ (escape asciiOnly t ++ 0x22 :: rest))
          = readString (v :: u :: acc) (escape asciiOnly t ++ 0x22 :: rest) := by
      split
      · rw [List.append_assoc, readString_hexEscape, readString_hexEscape]
      · rw [List.cons_append, List.cons_append, List.nil_append, readString_surrogate (.inl h.1),
          readString_surrogate (.inr h.2)]
    rw [escape, if_pos (Bool.and_eq_true_iff.mpr h), List.append_assoc, hpair, ih,
      List.reverse_cons, List.reverse_cons]
    simp only [List.append_assoc, List.cons_append, List.nil_append]
  | case5 u v t hpair h ih =>
    rw [escape, if_neg hpair, if_pos h, List.append_assoc, readString_hexEscape, ih,
      List.reverse_cons, List.append_assoc, List.singleton_append]
  | case6 u v t hpair h ih =>
    rw [escape, if_neg hpair, if_neg h, List.append_assoc, readString_escapeUnit, ih,
      List.reverse_cons, List.append_assoc, List.singleton_append]

/-! ## Well-formed strings -/

/-- What is written in ASCII holds no surrogates. -/
lemma isSurrogate_eq_false_of_lt {u : CodeUnit} (h : u.toNat < 0x80) :
    Text.isHighSurrogate u = false ∧ Text.isLowSurrogate u = false := by
  rw [← Bool.not_eq_true, ← Bool.not_eq_true, Text.isHighSurrogate_iff, Text.isLowSurrogate_iff]
  omega

lemma wellFormed_hexEscape (u : CodeUnit) : Text.WellFormed (hexEscape u) := by
  have hdigit : ∀ n, (hexDigit (n % 16)).toNat < 0x80 := by
    intro n
    have hall : ∀ d : Fin 16, (hexDigit d).toNat < 0x80 := by decide
    exact hall ⟨n % 16, Nat.mod_lt n (by decide)⟩
  apply Text.WellFormed.of_forall
  intro v hv
  apply isSurrogate_eq_false_of_lt
  simp only [hexEscape, List.mem_cons, List.not_mem_nil, or_false] at hv
  rcases hv with rfl | rfl | rfl | rfl | rfl | rfl
  · decide
  · decide
  all_goals exact hdigit _

lemma wellFormed_escapeUnit (asciiOnly : Bool) {u : CodeUnit}
    (hhigh : Text.isHighSurrogate u = false) (hlow : Text.isLowSurrogate u = false) :
    Text.WellFormed (escapeUnit asciiOnly u) := by
  unfold escapeUnit
  split
  · next c hc =>
    have hascii : ∀ v ∈ [Text.backslash, Text.unit c], v.toNat < 0x80 := by
      unfold shortEscape? at hc
      split_ifs at hc
      all_goals
        obtain rfl := Option.some.inj hc
        rw [List.forall_mem_cons, List.forall_mem_singleton]
        decide
    exact Text.WellFormed.of_forall fun v hv => isSurrogate_eq_false_of_lt (hascii v hv)
  · split
    · exact wellFormed_hexEscape u
    · exact .unit hhigh hlow .nil

/-- What stands between the quotes is well formed. -/
theorem wellFormed_escape (asciiOnly : Bool) (s : Text) :
    Text.WellFormed (escape asciiOnly s) := by
  have hsplit : ∀ {u : CodeUnit}, ¬ (Text.isHighSurrogate u || Text.isLowSurrogate u) = true →
      Text.isHighSurrogate u = false ∧ Text.isLowSurrogate u = false := by
    intro u h
    exact Bool.or_eq_false_iff.mp (Bool.eq_false_iff.mpr h)
  induction s using escape.induct with
  | case1 => exact .nil
  | case2 u h =>
    rw [escape, if_pos h]
    exact wellFormed_hexEscape u
  | case3 u h =>
    rw [escape, if_neg h]
    exact wellFormed_escapeUnit asciiOnly (hsplit h).1 (hsplit h).2
  | case4 u v t h ih =>
    rw [escape, if_pos h]
    rw [Bool.and_eq_true] at h
    apply Text.WellFormed.append _ ih
    split
    · exact (wellFormed_hexEscape u).append (wellFormed_hexEscape v)
    · exact .pair h.1 h.2 .nil
  | case5 u v t hpair h ih =>
    rw [escape, if_neg hpair, if_pos h]
    exact (wellFormed_hexEscape u).append ih
  | case6 u v t hpair h ih =>
    rw [escape, if_neg hpair, if_neg h]
    exact (wellFormed_escapeUnit asciiOnly (hsplit h).1 (hsplit h).2).append ih

end Json

end CallAtlas
