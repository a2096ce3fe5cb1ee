import CallAtlas.Proofs.Number.Digits
import Mathlib.Algebra.Order.Field.Power
import Mathlib.Algebra.Order.Group.Basic
import Mathlib.Data.Rat.Cast.Order
import Mathlib.Tactic.NormNum
import Mathlib.Tactic.Positivity

/-!
# Numbers and their texts

A natural number of the number format is written with its digits, or with an exponent from the
twenty-second digit on, and both are read back as the same number. Decimals from one on may have
digits behind a point too, and no two of them have one text.
-/

namespace CallAtlas

namespace Number

/-- A natural number of the number format: it has 15 digits at most, or it is the shortest decimal
of its binary value. -/
def IsWhole (n : Number) : Prop :=
  ∃ k : ℕ, n = k ∧ (k < 10 ^ 15 ∨ (nearest k 1).isSome ∧ ofRational k = k)

/-- A value of the binary format is not larger than the format allows. -/
lemma log2_lt_of_nearest_eq_some {n : ℕ} {b : Binary} (h : nearest n 1 = some b) :
    n.log2 < 1025 := by
  by_contra hlog
  have hguess : 972 ≤ (n.log2 : Int) - ((1 : ℕ).log2 : Int) - (precision : Int) := by
    have hone : ((1 : ℕ).log2 : Int) = 0 := by decide
    have hprecision : (precision : Int) = 53 := rfl
    omega
  have hmax : maxExponent = 971 := rfl
  unfold nearest at h
  simp only at h
  -- However the guess is corrected, the exponent is above the largest one.
  split at h <;> split at h <;> obtain ⟨hle, -⟩ := Option.ite_none_left_eq_some.mp h <;>
    simp only at hle <;> omega

lemma digitCount_le_of_nearest {n : ℕ} (h : (nearest n 1).isSome) : digitCount n ≤ 320 := by
  obtain ⟨b, hb⟩ := Option.isSome_iff_exists.mp h
  apply (digitCount_le_iff (by decide)).mpr
  rcases Nat.eq_zero_or_pos n with rfl | hpos
  · decide +kernel
  · have hlt := (Nat.log2_lt (by omega)).mp (log2_lt_of_nearest_eq_some hb)
    exact Nat.lt_of_lt_of_le hlt (by decide +kernel)

lemma ofDecimal_natCast (d e : ℕ) : ofDecimal false d e = ((d * 10 ^ e : ℕ) : Rat) := by
  change mkRat ((d : Int) * ((10 ^ e : ℕ) : Int)) 1 = _
  rw [Rat.mkRat_one]
  push_cast
  rfl

/-- A number that its binary value is written as. -/
private lemma shortest_eq_of_ofRational {k : ℕ} (hpos : 0 < k) {b : Binary}
    (hb : nearest k 1 = some b) (hexact : ofRational k = k) :
    (if b.significand == 0 then 0 else ofDecimal false (shortest b).1 (shortest b).2)
      = (k : Rat) := by
  have hnum : ((k : Rat).num == 0) = false := by
    rw [Rat.num_natCast, beq_eq_false_iff_ne]
    omega
  have hnonneg : ¬ (k : Rat) < 0 := by
    rw [← Rat.num_neg, Rat.num_natCast]
    omega
  rw [ofRational, hnum, if_neg Bool.false_ne_true] at hexact
  simp only [Rat.num_natCast, Rat.den_natCast, Int.natAbs_natCast, hb, if_neg hnonneg] at hexact
  exact hexact

/-- A literal of the value of a natural number of the format is read as the number. -/
lemma ofLiteral_eq_some {k d e : ℕ} (hk : k < 10 ^ 15 ∨ (nearest k 1).isSome ∧ ofRational k = k)
    (h : d * 10 ^ e = k) : ofLiteral false d e = some (k : Rat) := by
  have hpow : 0 < 10 ^ e := Nat.pow_pos (by decide)
  rcases Nat.eq_zero_or_pos d with rfl | hd
  · rw [← h, Nat.zero_mul]
    rfl
  have hpos : 0 < k := h ▸ Nat.mul_pos hd hpow
  have hcount : digitCount k = digitCount d + e := by rw [← h, digitCount_mul_pow hd]
  have hzero : (d == 0) = false := beq_eq_false_iff_ne.mpr (by omega)
  rw [ofLiteral, hzero, if_neg Bool.false_ne_true]
  simp only
  split
  · rw [ofDecimal_natCast, h]
  · next hlarge =>
    -- Such a number has more than 15 digits, so it is the shortest decimal of its binary value.
    have hmany : ¬ k < 10 ^ 15 := by
      intro hsmall
      have hle := (digitCount_le_iff (by decide)).mpr hsmall
      apply hlarge
      simp only [Bool.and_eq_true, decide_eq_true_eq]
      omega
    obtain ⟨hsome, hexact⟩ := hk.resolve_left hmany
    have hle := digitCount_le_of_nearest hsome
    obtain ⟨b, hb⟩ := Option.isSome_iff_exists.mp hsome
    have hvalue : nearest (d * (tenPow (e : Int)).1) (tenPow (e : Int)).2 = some b := by
      change nearest (d * 10 ^ e) 1 = some b
      rw [h, hb]
    rw [if_neg (by omega), if_neg (by omega), hvalue, ← shortest_eq_of_ofRational hpos hb hexact]
    simp only
    split <;> rfl

/-! ## Writing -/

lemma toText_of_lt {k : ℕ} (h : k < 10 ^ 21) : toText (k : Rat) = Text.ofNat k := by
  have hsmall : ((k : Rat).den == 1 && decide ((k : Rat).num.natAbs < Nat.pow 10 21)) = true := by
    rw [Rat.den_natCast, Rat.num_natCast, Int.natAbs_natCast, beq_self_eq_true, Bool.true_and]
    exact decide_eq_true h
  have hnonneg : ¬ (k : Rat).num < 0 := by
    rw [Rat.num_natCast]
    omega
  rw [toText, if_pos hsmall, if_neg hnonneg, Rat.num_natCast, Int.natAbs_natCast]
  rfl

/-- Removing zeros keeps the value. -/
lemma dropZeros_spec (fuel : ℕ) {m : ℕ} (hm : 0 < m) (e : ℤ) :
    ∃ d c : ℕ, dropZeros fuel m e = (d, e + c) ∧ 0 < d ∧ d * 10 ^ c = m := by
  induction fuel generalizing m e with
  | zero => exact ⟨m, 0, by rw [dropZeros, Nat.cast_zero, add_zero], hm, Nat.mul_one m⟩
  | succ fuel ih =>
    rw [dropZeros]
    split
    · next hten =>
      rw [Bool.and_eq_true, beq_iff_eq] at hten
      obtain ⟨d, c, heq, hpos, hvalue⟩ := ih (m := m / 10) (by omega) (e + 1)
      refine ⟨d, c + 1, ?_, hpos, ?_⟩
      · rw [heq, Nat.cast_add, Nat.cast_one, add_assoc, add_comm 1]
      · rw [Nat.pow_succ, ← Nat.mul_assoc, hvalue]
        omega
    · exact ⟨m, 0, by rw [Nat.cast_zero, add_zero], hm, Nat.mul_one m⟩

lemma digitsOf_natCast {k : ℕ} (hk : 0 < k) :
    ∃ d e : ℕ, digitsOf (k : Rat) = (d, (e : Int)) ∧ 0 < d ∧ d * 10 ^ e = k := by
  have hscale : scaleOf (k : Rat).den 1100 0 = 0 := by
    rw [Rat.den_natCast]
    rfl
  obtain ⟨d, e, heq, hpos, hvalue⟩ := dropZeros_spec (digitCount k) hk 0
  refine ⟨d, e, ?_, hpos, hvalue⟩
  rw [digitsOf]
  simp only [hscale]
  rw [Rat.num_natCast, Rat.den_natCast, Int.natAbs_natCast]
  have hone : k * Nat.pow 10 0 / 1 = k := by
    rw [Nat.div_one]
    exact Nat.mul_one k
  rw [hone]
  rw [zero_add] at heq
  exact heq

/-- The digits after the first one, behind a point, if there are any. -/
def fractionOf (d : ℕ) : Text :=
  if digitCount d = 1 then [] else Text.unit '.' :: (Text.ofNat d).drop 1

/-- With more than 21 digits before the point a number is written with an exponent. -/
lemma renderDigits_of_gt {d : ℕ} {e : ℤ} (h : 21 < digitCount d + e) :
    Text.ofString (renderDigits d e)
      = (Text.ofNat d).take 1 ++ (fractionOf d
        ++ Text.unit 'e' :: Text.unit '+' :: Text.ofNat (digitCount d + e - 1).toNat) := by
  have hlength : (Nat.repr d).length = digitCount d := rfl
  have hone : 1 ≤ digitCount d := digitCount_pos d
  have hwhole : format.maxWhole = 21 := rfl
  have hzeros : format.maxZeros = 5 := rfl
  have hexponent :
      ((digitCount d : Int) + e - 1).natAbs = ((digitCount d : Int) + e - 1).toNat := by
    omega
  have hsign : ¬ (digitCount d : Int) + e - 1 < 0 := by omega
  simp only [renderDigits, hlength, hwhole, hzeros, hexponent]
  rw [if_neg (by simp only [Bool.and_eq_true, decide_eq_true_eq]; omega),
    if_neg (by simp only [Bool.and_eq_true, decide_eq_true_eq]; omega),
    if_neg (by simp only [Bool.and_eq_true, decide_eq_true_eq]; omega), if_neg hsign]
  have he : Text.ofString "e" = [Text.unit 'e'] := rfl
  have hplus : Text.ofString "+" = [Text.unit '+'] := rfl
  have hpoint : Text.ofString "." = [Text.unit '.'] := rfl
  simp only [Text.ofString_append, he, hplus]
  rw [fractionOf]
  by_cases hsingle : digitCount d = 1
  · have hbeq : ((digitCount d : Int) == 1) = true := by
      rw [beq_iff_eq]
      omega
    have htake : (Text.ofNat d).take 1 = Text.ofNat d := by
      apply List.take_of_length_le
      rw [Text.length_ofNat, hsingle]
    rw [if_pos hbeq, if_pos hsingle, htake]
    simp only [List.append_assoc, List.nil_append, List.singleton_append]
    rfl
  · have hbeq : ((digitCount d : Int) == 1) = false := by
      rw [beq_eq_false_iff_ne]
      omega
    rw [hbeq, if_neg Bool.false_ne_true, if_neg hsingle]
    simp only [Text.ofString_append, hpoint, Text.ofString_take_repr, Text.ofString_drop_repr,
      List.append_assoc, List.cons_append]
    rfl

/-- From the twenty-second digit on a number is written with an exponent. -/
lemma toText_of_ge {k : ℕ} (h : 10 ^ 21 ≤ k) :
    ∃ d e : ℕ, 0 < d ∧ d * 10 ^ e = k ∧ toText (k : Rat)
      = (Text.ofNat d).take 1 ++ (fractionOf d
        ++ Text.unit 'e' :: Text.unit '+' :: Text.ofNat (digitCount d - 1 + e)) := by
  have hpos : 0 < k := Nat.lt_of_lt_of_le (by decide) h
  obtain ⟨d, e, hdigits, hd, hvalue⟩ := digitsOf_natCast hpos
  refine ⟨d, e, hd, hvalue, ?_⟩
  have hlarge : ((k : Rat).den == 1 && decide ((k : Rat).num.natAbs < Nat.pow 10 21)) = false := by
    rw [Bool.and_eq_false_iff]
    right
    rw [Rat.num_natCast, Int.natAbs_natCast, decide_eq_false_iff_not]
    exact Nat.not_lt.mpr h
  have hnonneg : ¬ (k : Rat).num < 0 := by
    rw [Rat.num_natCast]
    omega
  have hcount : digitCount k = digitCount d + e := by rw [← hvalue, digitCount_mul_pow hd]
  have hmany : 21 < digitCount k := by
    by_contra hfew
    have hlt := (digitCount_le_iff (by decide)).mp (Nat.not_lt.mp hfew)
    omega
  have hone : 1 ≤ digitCount d := digitCount_pos d
  have hexponent : ((digitCount d : Int) + e - 1).toNat = digitCount d - 1 + e := by omega
  rw [toText, if_neg (by rw [hlarge]; exact Bool.false_ne_true)]
  simp only [hdigits, if_neg hnonneg]
  rw [Text.ofString_append, renderDigits_of_gt (by omega), hexponent]
  rfl

end Number

namespace Json

/-- What comes next does not go on with a number. -/
def EndsNumber (rest : Text) : Prop :=
  ∀ u ∈ rest.head?, digitValue u = none ∧ u ≠ Text.unit '.' ∧ u ≠ Text.unit 'e'
    ∧ u ≠ Text.unit 'E'

/-- Reads the digits after the point of a number, if there is one: their value, their number, and
the rest. -/
def readFraction : Text → Option (ℕ × ℕ × Text)
  | [] => some (0, 0, [])
  | u :: after =>
    if u == Text.unit '.' then
      if (readDigits after).2.1 == 0 then none else some (readDigits after)
    else some (0, 0, u :: after)

/-- Reads the exponent of a number, if there is one. -/
def readExponent : Text → Option (Int × Text)
  | [] => some (0, [])
  | u :: after =>
    if u == Text.unit 'e' || u == Text.unit 'E' then
      let (negative, after) := readSign after
      let (value, count, after) := readDigits after
      if count == 0 then none
      else some (if negative then -(value : Int) else (value : Int), after)
    else some (0, u :: after)

/-- The number of the digits that were read. -/
def ofParts (whole value count : ℕ) (e : Int) : Json :=
  match Number.ofLiteral false (whole * 10 ^ count + value) (e - count) with
  | some n => .num n
  | none => .infinite false

/-- An exponent is read after the digits, and then the number is known. -/
lemma readExponent_ofParts (whole value count : ℕ) (rest : Text) :
    (match readExponent rest with
      | none => none
      | some (e, rest) =>
        match Number.ofLiteral false (whole * Nat.pow 10 count + value) (e - count) with
        | some n => some (Json.num n, rest)
        | none => some (.infinite false, rest))
      = (readExponent rest).map fun q => (ofParts whole value count q.1, q.2) := by
  cases readExponent rest with
  | none => rfl
  | some q =>
    simp only [Option.map_some, ofParts]
    split <;> rename_i heq <;> simp only [Nat.pow_eq] at heq <;> rw [heq]

/-- A number without a sign is read part by part. -/
lemma readNumber_cons {u : CodeUnit} (h : (u == Text.unit '-') = false) (t : Text) :
    readNumber (u :: t)
      = if (readDigits (u :: t)).2.1 == 0
          || (1 < (readDigits (u :: t)).2.1 && (u :: t).head? == some (Text.unit '0')) then none
        else
          (readFraction (readDigits (u :: t)).2.2).bind fun p =>
            (readExponent p.2.2).map fun q =>
              (ofParts (readDigits (u :: t)).1 p.1 p.2.1 q.1, q.2) := by
  unfold readNumber
  simp only [h, if_neg Bool.false_ne_true]
  split
  · rfl
  · generalize readDigits (u :: t) = digits
    obtain ⟨whole, wholeCount, rest⟩ := digits
    cases rest with
    | nil => exact readExponent_ofParts whole 0 0 []
    | cons v after =>
      rw [readFraction]
      by_cases hpoint : (v == Text.unit '.') = true
      · simp only [if_pos hpoint]
        by_cases hcount : ((readDigits after).2.1 == 0) = true
        · simp only [if_pos hcount]
          rfl
        · simp only [if_neg hcount, Option.bind_some]
          rw [← readExponent_ofParts]
          cases (readDigits after).2.2 <;> rfl
      · simp only [if_neg hpoint]
        exact readExponent_ofParts whole 0 0 (v :: after)

lemma readFraction_of_ends {rest : Text} (h : EndsNumber rest) :
    readFraction rest = some (0, 0, rest) := by
  cases rest with
  | nil => rfl
  | cons u rest => rw [readFraction, if_neg (by simpa using (h u rfl).2.1)]

lemma readExponent_of_ends {rest : Text} (h : EndsNumber rest) :
    readExponent rest = some (0, rest) := by
  cases rest with
  | nil => rfl
  | cons u rest =>
    obtain ⟨-, -, he, hE⟩ := h u rfl
    rw [readExponent, if_neg (by simp [he, hE])]

/-- Digits are read as the number that they stand for. -/
lemma readNumber_digits {whole rest : Text} (hne : whole ≠ [])
    (hdigits : ∀ u ∈ whole, (digitValue u).isSome)
    (hzero : 1 < whole.length → whole.head? ≠ some (Text.unit '0'))
    (hrest : ∀ u ∈ rest.head?, digitValue u = none) :
    readNumber (whole ++ rest)
      = (readFraction rest).bind fun p =>
          (readExponent p.2.2).map fun q => (ofParts (valueOf whole) p.1 p.2.1 q.1, q.2) := by
  have hread := readDigits_append hdigits hrest
  obtain ⟨u, digits, rfl⟩ := List.exists_cons_of_ne_nil hne
  have hminus : (u == Text.unit '-') = false := by
    rw [beq_eq_false_iff_ne]
    rintro rfl
    exact absurd (hdigits _ List.mem_cons_self) (by decide)
  have hfaultless : ((u :: digits).length == 0
      || decide (1 < (u :: digits).length) && (u :: (digits ++ rest)).head? == some (Text.unit '0'))
        = false := by
    rw [Bool.or_eq_false_iff, Bool.and_eq_false_imp, decide_eq_true_eq]
    exact ⟨rfl, fun hlong => beq_eq_false_iff_ne.mpr (hzero hlong)⟩
  rw [List.cons_append] at hread ⊢
  rw [readNumber_cons hminus, hread]
  simp only [hfaultless, if_neg Bool.false_ne_true]

/-- A natural number of the format is read back from its digits. -/
lemma readNumber_ofNat {k : ℕ}
    (hk : k < 10 ^ 15 ∨ (Number.nearest k 1).isSome ∧ Number.ofRational k = k) {rest : Text}
    (hrest : EndsNumber rest) : readNumber (Text.ofNat k ++ rest) = some (.num k, rest) := by
  have hzero : 1 < (Text.ofNat k).length → (Text.ofNat k).head? ≠ some (Text.unit '0') := by
    intro hlong
    apply Text.head?_ofNat
    by_contra hk
    rw [Nat.eq_zero_of_not_pos hk] at hlong
    exact absurd hlong (by decide)
  have hliteral : Number.ofLiteral false (k * 10 ^ 0 + 0) 0 = some (k : Rat) :=
    Number.ofLiteral_eq_some hk (by rw [Nat.pow_zero, Nat.mul_one, Nat.mul_one, Nat.add_zero])
  rw [readNumber_digits (Text.ofNat_ne_nil k) isSome_digitValue_of_mem_ofNat hzero
    fun u hu => (hrest u hu).1, readFraction_of_ends hrest, Option.bind_some,
    readExponent_of_ends hrest, Option.map_some, valueOf_ofNat, ofParts]
  simp only [Nat.cast_zero, Int.sub_zero, hliteral]

/-- The digits before and behind a place are those of one number. -/
lemma valueOf_take_drop (d p : ℕ) :
    valueOf ((Text.ofNat d).take p) * 10 ^ ((Text.ofNat d).drop p).length
      + valueOf ((Text.ofNat d).drop p) = d := by
  rw [← valueOf_append, List.take_append_drop, valueOf_ofNat]

lemma length_drop_ofNat (d p : ℕ) :
    ((Text.ofNat d).drop p).length = Number.digitCount d - p := by
  rw [List.length_drop, Text.length_ofNat]

lemma isSome_digitValue_of_mem_take {d p : ℕ} :
    ∀ u ∈ (Text.ofNat d).take p, (digitValue u).isSome :=
  fun u hu => isSome_digitValue_of_mem_ofNat u (List.mem_of_mem_take hu)

/-- The letter of an exponent ends the digits before it. -/
lemma digitValue_of_head?_exponent {after : Text} :
    ∀ u ∈ (Text.unit 'e' :: after).head?, digitValue u = none ∧ u ≠ Text.unit '.' := by
  intro u hu
  rw [← Option.some.inj hu]
  decide

/-- The first digit is followed by a point or by the letter of the exponent. -/
lemma digitValue_of_head?_fractionOf {d : ℕ} {after : Text} :
    ∀ u ∈ (Number.fractionOf d ++ Text.unit 'e' :: after).head?, digitValue u = none := by
  intro u hu
  rw [Number.fractionOf] at hu
  split at hu
  · exact (digitValue_of_head?_exponent u hu).1
  · rw [← Option.some.inj hu]
    decide

/-- The digits behind the first one are read as the fraction that they stand for. -/
lemma readFraction_fractionOf {d : ℕ} {rest : Text}
    (hrest : ∀ u ∈ rest.head?, digitValue u = none ∧ u ≠ Text.unit '.') :
    readFraction (Number.fractionOf d ++ rest)
      = some (valueOf ((Text.ofNat d).drop 1), ((Text.ofNat d).drop 1).length, rest) := by
  by_cases hsingle : Number.digitCount d = 1
  · have hdrop : (Text.ofNat d).drop 1 = [] := by
      apply List.drop_eq_nil_of_le
      rw [Text.length_ofNat, hsingle]
    rw [Number.fractionOf, if_pos hsingle, List.nil_append, hdrop]
    cases rest with
    | nil => rfl
    | cons u rest =>
      rw [readFraction, if_neg (by simpa using (hrest u rfl).2)]
      rfl
  · have hlength : ((Text.ofNat d).drop 1).length ≠ 0 := by
      have hpos := Number.digitCount_pos d
      rw [List.length_drop, Text.length_ofNat]
      omega
    have hdigits : ∀ u ∈ (Text.ofNat d).drop 1, (digitValue u).isSome := fun u hu =>
      isSome_digitValue_of_mem_ofNat u (List.mem_of_mem_drop hu)
    have hread := readDigits_append hdigits fun u hu => (hrest u hu).1
    rw [Number.fractionOf, if_neg hsingle, List.cons_append, readFraction,
      if_pos (beq_self_eq_true _), hread, if_neg (by simpa using hlength)]

/-- An exponent with a plus is read as its digits say. -/
lemma readExponent_plus {n : ℕ} {rest : Text} (hrest : EndsNumber rest) :
    readExponent (Text.unit 'e' :: Text.unit '+' :: (Text.ofNat n ++ rest))
      = some ((n : Int), rest) := by
  have hdigits : ∀ u ∈ Text.ofNat n, (digitValue u).isSome := isSome_digitValue_of_mem_ofNat
  have hread := readDigits_append hdigits fun u hu => (hrest u hu).1
  have hlength : ((Text.ofNat n).length == 0) = false := by
    rw [beq_eq_false_iff_ne]
    exact fun h => Text.ofNat_ne_nil n (List.length_eq_zero_iff.mp h)
  have hsign : readSign (Text.unit '+' :: (Text.ofNat n ++ rest))
      = (false, Text.ofNat n ++ rest) := rfl
  rw [readExponent, if_pos (by decide), hsign]
  simp only [hread, hlength, if_neg Bool.false_ne_true, valueOf_ofNat]

/-- A natural number of the format is read back from its text. -/
theorem readNumber_toText {n : Number} (hn : n.IsWhole) {rest : Text} (hrest : EndsNumber rest) :
    readNumber (n.toText ++ rest) = some (.num n, rest) := by
  obtain ⟨k, rfl, hk⟩ := hn
  rcases Nat.lt_or_ge k (10 ^ 21) with hsmall | hlarge
  · rw [Number.toText_of_lt hsmall]
    exact readNumber_ofNat hk hrest
  obtain ⟨d, e, hd, hvalue, htext⟩ := Number.toText_of_ge hlarge
  have hcount := Number.digitCount_pos d
  have htake : ((Text.ofNat d).take 1).length = 1 := by
    rw [List.length_take, Text.length_ofNat]
    omega
  -- The first digit and those behind the point are the digits of one number.
  have hexponent : ((Number.digitCount d - 1 + e : ℕ) : Int)
      - (((Text.ofNat d).drop 1).length : ℕ) = (e : ℕ) := by
    rw [length_drop_ofNat]
    omega
  rw [htext, List.append_assoc, List.append_assoc, List.cons_append, List.cons_append,
    readNumber_digits (by rw [← List.length_pos_iff]; omega) isSome_digitValue_of_mem_take
      (fun hlong => absurd hlong (by omega)) digitValue_of_head?_fractionOf,
    readFraction_fractionOf digitValue_of_head?_exponent, Option.bind_some,
    readExponent_plus hrest, Option.map_some, ofParts, valueOf_take_drop, hexponent,
    Number.ofLiteral_eq_some hk hvalue]

end Json

/-- The text of a natural number of the format starts with a digit. -/
lemma Number.IsWhole.exists_digit {n : Number} (hn : n.IsWhole) :
    ∃ u rest, n.toText = u :: rest ∧ (Json.digitValue u).isSome := by
  obtain ⟨k, rfl, -⟩ := hn
  have hdigits : ∀ {d : ℕ} (after : Text), ∃ u rest, (Text.ofNat d).take 1 ++ after = u :: rest
      ∧ (Json.digitValue u).isSome := by
    intro d after
    obtain ⟨u, digits, h⟩ := List.exists_cons_of_ne_nil (Text.ofNat_ne_nil d)
    refine ⟨u, after, by rw [h]; rfl, ?_⟩
    exact Json.isSome_digitValue_of_mem_ofNat u (h ▸ List.mem_cons_self)
  rcases Nat.lt_or_ge k (10 ^ 21) with hsmall | hlarge
  · obtain ⟨u, rest, h, hdigit⟩ := hdigits (d := k) ((Text.ofNat k).drop 1)
    rw [List.take_append_drop] at h
    exact ⟨u, rest, by rw [toText_of_lt hsmall, h], hdigit⟩
  · obtain ⟨d, e, -, -, htext⟩ := toText_of_ge hlarge
    rw [htext]
    exact hdigits _

/-! ## Decimals -/

namespace Number

/-- A number with finitely many digits behind the point. In the binary format there are at most
1074 of them. -/
def IsDecimal (n : Number) : Prop := ∃ k ≤ 1100, n.den ∣ 10 ^ k

variable {n : Number}

lemma isDecimal_of_den_eq_one (h : n.den = 1) : n.IsDecimal := ⟨0, Nat.zero_le _, by rw [h]; rfl⟩

lemma dvd_scaleOf {d k fuel j : ℕ} (hd : d ∣ 10 ^ k) (hk : k ≤ j + fuel) :
    d ∣ 10 ^ scaleOf d fuel j := by
  induction fuel generalizing j with
  | zero => exact hd.trans (pow_dvd_pow 10 hk)
  | succ fuel ih =>
    rw [scaleOf]
    split
    · next hmod => exact Nat.dvd_of_mod_eq_zero (beq_iff_eq.mp hmod)
    · exact ih (by omega)

/-- The digits of a positive number and their place say its value. -/
lemma digitsOf_spec (hpos : 0 < n) (hn : n.IsDecimal) :
    ∃ (d : ℕ) (e : ℤ), digitsOf n = (d, e) ∧ (d : ℚ) * 10 ^ e = n := by
  obtain ⟨k, hk, hdvd⟩ := hn
  set j := scaleOf n.den 1100 0
  have hj : n.den ∣ 10 ^ j := dvd_scaleOf hdvd (by omega)
  have hnum : 0 < n.num.natAbs := Int.natAbs_pos.mpr (Rat.num_pos.mpr hpos).ne'
  set m := n.num.natAbs * 10 ^ j / n.den with hm
  -- With so many places behind the point the division leaves no rest.
  have hmul : m * n.den = n.num.natAbs * 10 ^ j := Nat.div_mul_cancel (Dvd.dvd.mul_left hj _)
  have hmpos : 0 < m := by
    apply Nat.pos_of_ne_zero
    intro hzero
    rw [hzero, Nat.zero_mul, eq_comm, Nat.mul_eq_zero] at hmul
    have hpow : 0 < 10 ^ j := Nat.pow_pos (by decide)
    omega
  obtain ⟨d, c, heq, -, hvalue⟩ := dropZeros_spec (digitCount m) hmpos (-(j : ℤ))
  refine ⟨d, -(j : ℤ) + c, heq, ?_⟩
  have hcast : ((n.num.natAbs : ℕ) : ℚ) = n * n.den := by
    rw [Nat.cast_natAbs, abs_of_pos (Rat.num_pos.mpr hpos), Rat.mul_den_eq_num]
  have hden : (0 : ℚ) < n.den := by exact_mod_cast n.den_pos
  have hvalue' : (m : ℚ) = n * 10 ^ j := by
    have hmul' : (m : ℚ) * n.den = n.num.natAbs * 10 ^ j := by exact_mod_cast hmul
    rw [hcast] at hmul'
    apply mul_right_cancel₀ hden.ne'
    rw [hmul']
    ring
  have hten : (10 : ℚ) ^ j ≠ 0 := by positivity
  rw [zpow_add₀ (by norm_num), zpow_neg, zpow_natCast, zpow_natCast]
  have hdm : (d : ℚ) * 10 ^ c = m := by exact_mod_cast hvalue
  rw [mul_left_comm, hdm, hvalue', mul_comm, mul_assoc, mul_inv_cancel₀ hten, mul_one]

/-- With up to 21 digits before a point that has digits behind it, a number is written with the
point. -/
lemma renderDigits_of_point {d p : ℕ} {e : ℤ} (he : e < 0) (hp : (digitCount d : ℤ) + e = p)
    (hpos : 0 < p) (hle : p ≤ 21) :
    Text.ofString (renderDigits d e)
      = (Text.ofNat d).take p ++ Text.unit '.' :: (Text.ofNat d).drop p := by
  have hlength : (Nat.repr d).length = digitCount d := rfl
  have hwhole : format.maxWhole = 21 := rfl
  have hpoint : Text.ofString "." = [Text.unit '.'] := rfl
  have hnat : ((digitCount d : ℤ) + e).toNat = p := by omega
  simp only [renderDigits, hlength, hwhole, hnat]
  rw [if_neg (by simp only [Bool.and_eq_true, decide_eq_true_eq]; omega),
    if_pos (by simp only [Bool.and_eq_true, decide_eq_true_eq]; omega)]
  simp only [Text.ofString_append, hpoint, Text.ofString_take_repr, Text.ofString_drop_repr,
    List.append_assoc, List.singleton_append]

/-- A number lies below the power of ten in front of its first digit. -/
lemma lt_zpow_place (d : ℕ) (e : ℤ) : (d : ℚ) * 10 ^ e < 10 ^ ((digitCount d : ℤ) + e) := by
  rw [zpow_add₀ (by norm_num), zpow_natCast]
  apply mul_lt_mul_of_pos_right _ (by positivity)
  exact_mod_cast lt_pow_digitCount d

/-- A number with up to 21 digits before the point that is not a whole number has digits behind
it. -/
lemma exponent_neg {d : ℕ} {e : ℤ} (hle : (digitCount d : ℤ) + e ≤ 21)
    (hnot : ¬∃ k < 10 ^ 21, (d : ℚ) * 10 ^ e = (k : ℕ)) : e < 0 := by
  by_contra hwhole
  obtain ⟨k, rfl⟩ := Int.eq_ofNat_of_zero_le (not_lt.mp hwhole)
  have hcast : (d : ℚ) * 10 ^ (k : ℤ) = ((d * 10 ^ k : ℕ) : ℚ) := by
    rw [zpow_natCast]
    push_cast
    rfl
  refine hnot ⟨d * 10 ^ k, ?_, hcast⟩
  have hpow : ((d * 10 ^ k : ℕ) : ℚ) < ((10 ^ 21 : ℕ) : ℚ) := by
    rw [← hcast]
    refine (lt_zpow_place d k).trans_le ?_
    rw [Nat.cast_pow, Nat.cast_ofNat, ← zpow_natCast]
    exact zpow_le_zpow_right₀ (by norm_num) hle
  exact_mod_cast hpow

/-- A number from one on has a digit before the point. -/
lemma place_pos {d : ℕ} {e : ℤ} (h : 1 ≤ (d : ℚ) * 10 ^ e) : 0 < (digitCount d : ℤ) + e := by
  have hpow : (10 : ℚ) ^ (0 : ℤ) < 10 ^ ((digitCount d : ℤ) + e) := by
    rw [zpow_zero]
    exact h.trans_lt (lt_zpow_place d e)
  exact (zpow_lt_zpow_iff_right₀ (by norm_num)).mp hpow

/-- A positive number that is not written as a whole number is written with its digits and their
place. -/
lemma toText_eq_renderDigits (hpos : 0 < n)
    (hsmall : ¬ (n.den == 1 && decide (n.num.natAbs < Nat.pow 10 21)) = true) {d : ℕ} {e : ℤ}
    (hdigits : digitsOf n = (d, e)) : n.toText = Text.ofString (renderDigits d e) := by
  have hnum : 0 < n.num := Rat.num_pos.mpr hpos
  rw [toText, if_neg hsmall]
  simp only [hdigits, if_neg hnum.not_gt]
  rw [Text.ofString_append]
  rfl

/-- How a number from one on is written: with its digits, with a point among them, or with an
exponent. -/
lemma toText_cases (hone : 1 ≤ n) (hn : n.IsDecimal) :
    (∃ k : ℕ, n = k ∧ n.toText = Text.ofNat k)
    ∨ (∃ d p : ℕ, p < digitCount d ∧ (d : ℚ) * 10 ^ ((p : ℤ) - digitCount d) = n
      ∧ n.toText = (Text.ofNat d).take p ++ Text.unit '.' :: (Text.ofNat d).drop p)
    ∨ ∃ (d : ℕ) (e : ℤ), 21 < digitCount d + e ∧ (d : ℚ) * 10 ^ e = n
      ∧ n.toText = (Text.ofNat d).take 1 ++ (fractionOf d
        ++ Text.unit 'e' :: Text.unit '+' :: Text.ofNat (digitCount d + e - 1).toNat) := by
  have hpos : 0 < n := zero_lt_one.trans_le hone
  have hnum : 0 < n.num := Rat.num_pos.mpr hpos
  by_cases hsmall : (n.den == 1 && decide (n.num.natAbs < Nat.pow 10 21)) = true
  · left
    refine ⟨n.num.natAbs, ?_, ?_⟩
    · rw [Bool.and_eq_true, beq_iff_eq] at hsmall
      rw [Nat.cast_natAbs, abs_of_pos hnum]
      exact ((Rat.den_eq_one_iff n).mp hsmall.1).symm
    · rw [toText, if_pos hsmall, if_neg hnum.not_gt]
      rfl
  right
  obtain ⟨d, e, hdigits, hvalue⟩ := digitsOf_spec hpos hn
  have htext := toText_eq_renderDigits hpos hsmall hdigits
  by_cases hmany : 21 < (digitCount d : ℤ) + e
  · exact .inr ⟨d, e, hmany, hvalue, by rw [htext, renderDigits_of_gt hmany]⟩
  left
  have hplace : 0 < (digitCount d : ℤ) + e := place_pos (hone.trans_eq hvalue.symm)
  -- Without digits behind the point it is a whole number, which was dealt with.
  have hfraction : e < 0 := by
    apply exponent_neg (not_lt.mp hmany)
    rintro ⟨k, hk, hcast⟩
    apply hsmall
    rw [← hvalue, hcast, Rat.den_natCast, Rat.num_natCast, Int.natAbs_natCast, beq_self_eq_true,
      Bool.true_and]
    exact decide_eq_true hk
  obtain ⟨p, hp⟩ := Int.eq_ofNat_of_zero_le hplace.le
  refine ⟨d, p, by omega, ?_, ?_⟩
  · rw [← hvalue, ← hp]
    congr 2
    ring
  · rw [htext, renderDigits_of_point hfraction hp (by omega) (by omega)]

/-- The units that a number from one on is written with. -/
lemma mem_toText (hone : 1 ≤ n) (hn : n.IsDecimal) {u : CodeUnit} (hu : u ∈ n.toText) :
    (Json.digitValue u).isSome ∨ u ∈ [Text.unit '.', Text.unit 'e', Text.unit '+'] := by
  have hfraction : ∀ {d : ℕ}, u ∈ fractionOf d →
      (Json.digitValue u).isSome ∨ u ∈ [Text.unit '.', Text.unit 'e', Text.unit '+'] := by
    intro d hu
    rw [fractionOf] at hu
    split at hu
    · cases hu
    · rcases List.mem_cons.mp hu with rfl | hu
      · exact .inr List.mem_cons_self
      · exact .inl (Json.isSome_digitValue_of_mem_ofNat u (List.mem_of_mem_drop hu))
  rcases toText_cases hone hn with ⟨k, -, htext⟩ | ⟨d, p, -, -, htext⟩ | ⟨d, e, -, -, htext⟩
  · rw [htext] at hu
    exact .inl (Json.isSome_digitValue_of_mem_ofNat u hu)
  · rw [htext, List.mem_append, List.mem_cons] at hu
    rcases hu with hu | rfl | hu
    · exact .inl (Json.isSome_digitValue_of_mem_ofNat u (List.mem_of_mem_take hu))
    · exact .inr List.mem_cons_self
    · exact .inl (Json.isSome_digitValue_of_mem_ofNat u (List.mem_of_mem_drop hu))
  · rw [htext, List.mem_append, List.mem_append, List.mem_cons, List.mem_cons] at hu
    rcases hu with hu | hu | rfl | rfl | hu
    · exact .inl (Json.isSome_digitValue_of_mem_ofNat u (List.mem_of_mem_take hu))
    · exact hfraction hu
    · exact .inr (by decide)
    · exact .inr (by decide)
    · exact .inl (Json.isSome_digitValue_of_mem_ofNat u hu)

end Number

namespace Json

/-- The number that a text without a sign stands for. -/
def decimalValue (t : Text) : Option ℚ :=
  (readFraction (readDigits t).2.2).bind fun p => (readExponent p.2.2).map fun q =>
    (((readDigits t).1 * 10 ^ p.2.1 + p.1 : ℕ) : ℚ) * 10 ^ (q.1 - (p.2.1 : ℤ))

/-- Digits, a fraction and an exponent stand for a number. -/
lemma decimalValue_append {whole rest rest' rest'' : Text} {value count : ℕ} {e : ℤ}
    (hwhole : ∀ u ∈ whole, (digitValue u).isSome) (hrest : ∀ u ∈ rest.head?, digitValue u = none)
    (hfraction : readFraction rest = some (value, count, rest'))
    (hexponent : readExponent rest' = some (e, rest'')) :
    decimalValue (whole ++ rest)
      = some (((valueOf whole * 10 ^ count + value : ℕ) : ℚ) * 10 ^ (e - (count : ℤ))) := by
  rw [decimalValue, readDigits_append hwhole hrest, hfraction, Option.bind_some, hexponent,
    Option.map_some]

/-- Digits with a point among them stand for a number with so many places less. -/
lemma decimalValue_point {d p : ℕ} (hp : p < Number.digitCount d) :
    decimalValue ((Text.ofNat d).take p ++ Text.unit '.' :: (Text.ofNat d).drop p)
      = some ((d : ℚ) * 10 ^ ((p : ℤ) - Number.digitCount d)) := by
  have hfraction : readFraction (Text.unit '.' :: (Text.ofNat d).drop p)
      = some (valueOf ((Text.ofNat d).drop p), ((Text.ofNat d).drop p).length, []) := by
    have hread : readDigits ((Text.ofNat d).drop p ++ []) = _ :=
      readDigits_append
        (fun u hu => isSome_digitValue_of_mem_ofNat u (List.mem_of_mem_drop hu))
        (fun u hu => nomatch hu)
    rw [List.append_nil] at hread
    have hpos : ¬(((Text.ofNat d).drop p).length == 0) = true := by
      rw [beq_iff_eq, length_drop_ofNat]
      omega
    rw [readFraction, if_pos (beq_self_eq_true _), hread, if_neg hpos]
  have hpoint : ∀ u ∈ (Text.unit '.' :: (Text.ofNat d).drop p).head?, digitValue u = none := by
    intro u hu
    rw [← Option.some.inj hu]
    decide
  rw [decimalValue_append isSome_digitValue_of_mem_take hpoint hfraction rfl, valueOf_take_drop,
    length_drop_ofNat]
  congr 3
  omega

/-- Digits with an exponent stand for a number with its first digit at that place. -/
lemma decimalValue_exponent {d : ℕ} {e : ℤ} (he : 21 < Number.digitCount d + e) :
    decimalValue ((Text.ofNat d).take 1 ++ (Number.fractionOf d
        ++ Text.unit 'e' :: Text.unit '+' :: Text.ofNat (Number.digitCount d + e - 1).toNat))
      = some ((d : ℚ) * 10 ^ e) := by
  have hends : EndsNumber [] := fun u hu => nomatch hu
  have hexponent := readExponent_plus (n := (Number.digitCount d + e - 1).toNat) hends
  rw [List.append_nil] at hexponent
  rw [decimalValue_append isSome_digitValue_of_mem_take digitValue_of_head?_fractionOf
    (readFraction_fractionOf digitValue_of_head?_exponent) hexponent, valueOf_take_drop,
    length_drop_ofNat]
  have hcount := Number.digitCount_pos d
  congr 3
  omega

/-- The text of a number from one on stands for the number. -/
lemma decimalValue_toText {n : Number} (hone : 1 ≤ n) (hn : n.IsDecimal) :
    decimalValue n.toText = some n := by
  rcases Number.toText_cases hone hn with ⟨k, rfl, htext⟩ | ⟨d, p, hp, hvalue, htext⟩
    | ⟨d, e, hmany, hvalue, htext⟩
  · have hnil : ∀ u ∈ ([] : Text).head?, digitValue u = none := fun u hu => nomatch hu
    rw [htext, ← List.append_nil (Text.ofNat k),
      decimalValue_append isSome_digitValue_of_mem_ofNat hnil rfl rfl, valueOf_ofNat]
    norm_num
  · rw [htext, decimalValue_point hp, hvalue]
  · rw [htext, decimalValue_exponent hmany, hvalue]

end Json

/-- Numbers from one on are known by their texts. -/
theorem Number.toText_inj {n n' : Number} (hone : 1 ≤ n) (hn : n.IsDecimal) (hone' : 1 ≤ n')
    (hn' : n'.IsDecimal) (h : n.toText = n'.toText) : n = n' := by
  apply Option.some.inj
  rw [← Json.decimalValue_toText hone hn, h, Json.decimalValue_toText hone' hn']

end CallAtlas
