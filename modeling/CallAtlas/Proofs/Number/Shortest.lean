import CallAtlas.Proofs.Number.Digits
import CallAtlas.Proofs.Number.Rounding
import Mathlib.Order.Monotone.Odd

/-!
# Shortest decimals and differences

The search for the shortest decimal of a binary value takes a digit more each time. With 18 digits
there is a decimal so close to the value that it rounds to it, so the search ends well. It follows
that rounded differences are in the order of the exact ones, and a range of lines inside another
one is not the longer of the two.
-/

namespace CallAtlas.Number

/-! ## The search for the shortest decimal -/

lemma roundsTo_iff {b : Binary} {m : ℕ} (hm : 0 < m) (e : ℤ) :
    roundsTo b m e = true ↔ rounded (m * 10 ^ e) = some b := by
  have hfraction : ((m * (tenPow e).1 : ℕ) : ℚ) / (tenPow e).2 = m * 10 ^ e := by
    rw [← tenPow_div, mul_div_assoc']
    push_cast
    rfl
  rw [← hfraction, ← nearest_eq_rounded (Nat.mul_pos hm (tenPow_pos e).1) (tenPow_pos e).2]
  exact beq_iff_eq

/-- The decimal of some exponent just below a binary value. -/
def decimalBelow (b : Binary) (e : ℤ) : ℕ :=
  b.significand * (twoPow b.exponent).1 * (tenPow e).2 / ((twoPow b.exponent).2 * (tenPow e).1)

lemma decimalBelow_eq_floor (b : Binary) (e : ℤ) :
    ((decimalBelow b e : ℕ) : ℤ) = ⌊b.value / 10 ^ e⌋ := by
  have hvalue : b.value / 10 ^ e
      = ((b.significand * (twoPow b.exponent).1 * (tenPow e).2 : ℕ) : ℚ)
        / (((twoPow b.exponent).2 * (tenPow e).1 : ℕ) : ℚ) := by
    rw [Binary.value_eq, ← twoPow_div, ← tenPow_div, mul_div_assoc', div_div_div_eq]
    push_cast
    rfl
  rw [hvalue, decimalBelow]
  exact (Rat.floor_natCast_div_natCast _ _).symm

/-- The decimal that is taken if there are one or two that round to a binary value. -/
def nearestOf (b : Binary) (e : ℤ) : List ℕ → Option ℕ
  | [m] => some m
  | [m, k] => some (if distance b k e < distance b m e then k else m)
  | _ => none

/-- What is taken is one of the decimals just below and just above the binary value. -/
lemma shortestWith_eq (b : Binary) (e : ℤ) :
    shortestWith b e = nearestOf b e
      ([decimalBelow b e, decimalBelow b e + 1].filter fun m => 0 < m && roundsTo b m e) := rfl

lemma mem_of_nearestOf {b : Binary} {e : ℤ} {ms : List ℕ} {m : ℕ} (h : nearestOf b e ms = some m) :
    m ∈ ms := by
  unfold nearestOf at h
  split at h
  · rw [← Option.some.inj h]
    exact List.mem_singleton_self _
  · rw [← Option.some.inj h]
    split
    · exact List.mem_cons_of_mem _ (List.mem_singleton_self _)
    · exact List.mem_cons_self
  · cases h

/-- The shortest decimal of some exponent rounds to the binary value. -/
lemma roundsTo_of_shortestWith {b : Binary} {e : ℤ} {m : ℕ} (h : shortestWith b e = some m) :
    0 < m ∧ rounded (m * 10 ^ e) = some b := by
  rw [shortestWith_eq] at h
  have hgood := (List.mem_filter.mp (mem_of_nearestOf h)).2
  rw [Bool.and_eq_true, decide_eq_true_eq] at hgood
  exact ⟨hgood.1, (roundsTo_iff hgood.1 e).mp hgood.2⟩

/-- If the decimal just below a binary value rounds to it, a shortest decimal is found. -/
lemma isSome_shortestWith {b : Binary} {e : ℤ} (hpos : 0 < decimalBelow b e)
    (h : rounded (decimalBelow b e * 10 ^ e) = some b) : (shortestWith b e).isSome := by
  have hgood : (decide (0 < decimalBelow b e) && roundsTo b (decimalBelow b e) e) = true := by
    rw [(roundsTo_iff hpos e).mpr h, decide_eq_true hpos]
    rfl
  rw [shortestWith_eq,
    List.filter_cons_of_pos (p := fun m => decide (0 < m) && roundsTo b m e) hgood]
  cases hnext : (decide (0 < decimalBelow b e + 1) && roundsTo b (decimalBelow b e + 1) e) with
  | true =>
    rw [List.filter_cons_of_pos (p := fun m => decide (0 < m) && roundsTo b m e) hnext]
    rfl
  | false =>
    rw [List.filter_cons_of_neg (p := fun m => decide (0 < m) && roundsTo b m e)
      (by rw [hnext]; exact Bool.false_ne_true)]
    rfl

/-- The search ends at the first exponent with a decimal that rounds to the binary value. -/
lemma exists_shortestFrom {b : Binary} {x : ℤ} (hx : (shortestWith b x).isSome) (fuel : ℕ) {e : ℤ}
    (hle : x ≤ e) (hlt : e < x + fuel) :
    ∃ m y, shortestFrom b fuel e = (m, y) ∧ shortestWith b y = some m ∧ x ≤ y := by
  induction fuel generalizing e with
  | zero => omega
  | succ fuel ih =>
    rw [shortestFrom]
    cases hfound : shortestWith b e with
    | some m => exact ⟨m, e, rfl, hfound, hle⟩
    | none =>
      have hne : x ≠ e := by
        rintro rfl
        rw [hfound] at hx
        cases hx
      push_cast at hlt
      exact ih (by omega) (by omega)

/-- Where the search for the shortest decimal of a binary value begins. -/
def searchStart (b : Binary) : ℤ :=
  if 0 < b.significand * (twoPow b.exponent).1 / (twoPow b.exponent).2 then
    digitCount (b.significand * (twoPow b.exponent).1 / (twoPow b.exponent).2)
  else 2 - (digitCount ((twoPow b.exponent).2 / (b.significand * (twoPow b.exponent).1)) : ℤ)

/-- The search begins two places at most above the first digit. -/
lemma zpow_searchStart_le {b : Binary} (hb : 0 < b.significand) :
    (10 : ℚ) ^ (searchStart b - 2) ≤ b.value := by
  obtain ⟨hs, ht⟩ := twoPow_pos b.exponent
  have hn : 0 < b.significand * (twoPow b.exponent).1 := Nat.mul_pos hb hs
  have hvalue : b.value
      = ((b.significand * (twoPow b.exponent).1 : ℕ) : ℚ) / (twoPow b.exponent).2 := by
    rw [Binary.value_eq, ← twoPow_div, mul_div_assoc']
    push_cast
    rfl
  rw [hvalue, searchStart]
  set n := b.significand * (twoPow b.exponent).1
  set t := (twoPow b.exponent).2
  have hnpos : (0 : ℚ) < n := by exact_mod_cast hn
  have htpos : (0 : ℚ) < t := by exact_mod_cast ht
  split
  · next hwhole =>
    -- The value has the digits of its whole part before the point.
    have hdigits := digitCount_pos (n / t)
    calc (10 : ℚ) ^ ((digitCount (n / t) : ℤ) - 2) ≤ 10 ^ ((digitCount (n / t) - 1 : ℕ) : ℤ) :=
          zpow_le_zpow_right₀ (by norm_num) (by omega)
      _ ≤ ((n / t : ℕ) : ℚ) := by
          rw [zpow_natCast]
          exact_mod_cast pow_digitCount_le hwhole
      _ ≤ n / t := by
          rw [le_div_iff₀ htpos]
          exact_mod_cast Nat.div_mul_le_self n t
  · -- Without a whole part its reciprocal says how far behind the point it begins.
    have hlt : (t : ℚ) < (10 : ℚ) ^ digitCount (t / n) * n := by
      have hless := (Nat.div_lt_iff_lt_mul hn).mp (lt_pow_digitCount (t / n))
      exact_mod_cast hless
    have hexponent : 2 - (digitCount (t / n) : ℤ) - 2 = -(digitCount (t / n) : ℤ) := by ring
    rw [hexponent, zpow_neg, zpow_natCast, inv_le_iff_one_le_mul₀ (by positivity),
      div_mul_eq_mul_div, one_le_div htpos, mul_comm]
    exact hlt.le

/-- The shortest decimal of a binary value. -/
def shortestDecimal (b : Binary) : ℚ := (shortest b).1 * 10 ^ (shortest b).2

/-- There is a shortest decimal for every positive binary value. -/
lemma rounded_shortest {b : Binary} (hb : b.IsCanonical) (hpos : 0 < b.significand) :
    0 < shortestDecimal b ∧ rounded (shortestDecimal b) = some b := by
  -- With 18 digits there is room for a decimal close to the binary value.
  set x := searchStart b - 19 with hx
  have hten : (0 : ℚ) < 10 ^ x := by positivity
  have hstart : 10 ^ (17 : ℕ) * (10 : ℚ) ^ x ≤ b.value := by
    apply le_of_eq_of_le _ (zpow_searchStart_le hpos)
    rw [← zpow_natCast, ← zpow_add₀ (by norm_num)]
    congr 1
    push_cast
    omega
  have hunit : (10 : ℚ) ^ x ≤ 2 ^ b.exponent / 8 := by
    have hlt : b.value < 2 ^ 53 * 2 ^ b.exponent := by
      rw [b.value_eq]
      exact mul_lt_mul_of_pos_right (by exact_mod_cast hb.significand_lt) (zpow_two_pos _)
    have := zpow_two_pos b.exponent
    norm_num at hstart hlt
    linarith
  have hfloor := decimalBelow_eq_floor b x
  have hle : (decimalBelow b x : ℚ) * 10 ^ x ≤ b.value := by
    rw [← le_div_iff₀ hten]
    exact_mod_cast hfloor ▸ Int.floor_le (b.value / 10 ^ x)
  have hgt : b.value < ((decimalBelow b x : ℚ) + 1) * 10 ^ x := by
    rw [← div_lt_iff₀ hten]
    exact_mod_cast hfloor ▸ Int.lt_floor_add_one (b.value / 10 ^ x)
  have hdecimal : 0 < decimalBelow b x := by
    by_contra hzero
    rw [Nat.eq_zero_of_not_pos hzero, Nat.cast_zero, zero_add, one_mul] at hgt
    norm_num at hstart
    linarith
  have hsome : (shortestWith b x).isSome := by
    apply isSome_shortestWith hdecimal
    apply rounded_of_close hb _ hle
    · linarith
    · exact mul_pos (Nat.cast_pos.mpr hdecimal) hten
  obtain ⟨m, e, hfound, hwith, -⟩ := exists_shortestFrom hsome 25 (e := searchStart b)
    (by omega) (by omega)
  obtain ⟨hm, hrounded⟩ := roundsTo_of_shortestWith hwith
  have hshortest : shortest b = (m, e) := hfound
  rw [shortestDecimal, hshortest]
  exact ⟨mul_pos (Nat.cast_pos.mpr hm) (by positivity), hrounded⟩

/-! ## Sizes with a sign -/

/-- A size that depends on the nearest binary value, with the sign of a number. -/
def signed (size : Option Binary → ℚ) (r : ℚ) : ℚ :=
  if r.num == 0 then 0 else if r < 0 then -size (rounded r) else size (rounded r)

variable {size : Option Binary → ℚ}

lemma signed_of_pos {r : ℚ} (hr : 0 < r) : signed size r = size (rounded r) := by
  have hne : ¬(r.num == 0) = true := by
    rw [beq_iff_eq]
    exact (Rat.num_pos.mpr hr).ne'
  rw [signed, if_neg hne, if_neg (not_lt.mpr hr.le)]

lemma rounded_neg (r : ℚ) : rounded (-r) = rounded r := by
  rw [rounded, Rat.neg_num, Rat.neg_den, Int.natAbs_neg, rounded]

lemma signed_neg (r : ℚ) : signed size (-r) = -signed size r := by
  have hneg : ∀ {r : ℚ}, 0 < r → signed size (-r) = -signed size r := by
    intro r hr
    have hne : ¬((-r).num == 0) = true := by
      rw [beq_iff_eq]
      exact (Rat.num_neg.mpr (neg_neg_of_pos hr)).ne
    rw [signed_of_pos hr, signed, if_neg hne, if_pos (neg_neg_of_pos hr), rounded_neg]
  rcases lt_trichotomy r 0 with h | rfl | h
  · rw [← neg_eq_iff_eq_neg, ← hneg (neg_pos.mpr h), neg_neg]
  · rfl
  · exact hneg h

/-- A size that keeps the order of positive numbers keeps that of all numbers. -/
lemma signed_mono (hnonneg : ∀ {r : ℚ}, 0 < r → 0 ≤ signed size r)
    (hmono : ∀ {r r' : ℚ}, 0 < r → r ≤ r' → signed size r ≤ signed size r') :
    Monotone (signed size) := by
  apply monotone_of_odd_of_monotoneOn_nonneg signed_neg
  intro r hr r' _ hle
  rcases (Set.mem_Ici.mp hr).eq_or_lt with rfl | hpos
  · rcases hle.eq_or_lt with rfl | hpos'
    · exact le_rfl
    · exact hnonneg hpos'
  · exact hmono hpos hle

/-! ## Rounding to the shortest decimal -/

/-- The shortest decimal of a binary value that need not be positive. -/
def decimalSize : Option Binary → ℚ
  | none => beyond
  | some b => if b.significand == 0 then 0 else shortestDecimal b

lemma ofRational_eq : ofRational = signed decimalSize := by
  funext r
  have hdecimal : ∀ b, ofDecimal false (shortest b).1 (shortest b).2 = shortestDecimal b :=
    fun b => ofDecimal_eq _ _
  unfold ofRational signed rounded
  cases nearest r.num.natAbs r.den with
  | none => rfl
  | some b =>
    simp only [hdecimal]
    rfl

/-- What a positive number becomes: the shortest decimal of the nearest binary value. -/
lemma ofRational_cases {r : ℚ} (hr : 0 < r) :
    rounded r = none ∧ ofRational r = beyond
      ∨ ∃ b, rounded r = some b ∧ b.IsCanonical
        ∧ (b.significand = 0 ∧ ofRational r = 0
          ∨ 0 < b.significand ∧ ofRational r = shortestDecimal b) := by
  rw [ofRational_eq, signed_of_pos hr]
  cases hround : rounded r with
  | none => exact .inl ⟨rfl, rfl⟩
  | some b =>
    refine .inr ⟨b, rfl, (isCanonical_of_rounded hr hround).2, ?_⟩
    rcases Nat.eq_zero_or_pos b.significand with hzero | hpos
    · exact .inl ⟨hzero, if_pos (beq_iff_eq.mpr hzero)⟩
    · refine .inr ⟨hpos, if_neg ?_⟩
      rw [beq_iff_eq]
      exact hpos.ne'

lemma ofRational_nonneg {r : ℚ} (hr : 0 < r) : 0 ≤ ofRational r := by
  rcases ofRational_cases hr with ⟨-, h⟩ | ⟨b, -, hb, ⟨-, h⟩ | ⟨hpos, h⟩⟩
  · exact h ▸ beyond_pos.le
  · exact h ▸ le_rfl
  · exact h ▸ (rounded_shortest hb hpos).1.le

lemma ofRational_le_of_pos {r r' : ℚ} (hr : 0 < r) (hle : r ≤ r') :
    ofRational r ≤ ofRational r' := by
  rcases ofRational_cases (hr.trans_le hle) with ⟨-, h'⟩ | ⟨b', hb', hcanonical', hcases'⟩
  · rw [h']
    rcases ofRational_cases hr with ⟨-, h⟩ | ⟨b, -, hb, ⟨-, h⟩ | ⟨hpos, h⟩⟩
    · exact h.le
    · exact h ▸ beyond_pos.le
    · obtain ⟨hdecimal, hround⟩ := rounded_shortest hb hpos
      exact h ▸ (lt_of_rounded hdecimal hround).le
  · rcases ofRational_cases hr with ⟨hnone, -⟩ | ⟨b, hb, hcanonical, ⟨-, h⟩ | ⟨hpos, h⟩⟩
    · obtain ⟨b, hb⟩ := exists_rounded_of_le hr hle hb'
      rw [hb] at hnone
      cases hnone
    · rw [h]
      exact ofRational_nonneg (hr.trans_le hle)
    · have hvalue : b.value ≤ b'.value := value_le_of_rounded hr hle hb hb'
      have hpos' : 0 < b'.significand := by
        apply Nat.pos_of_ne_zero
        intro hzero
        rw [Binary.value_eq, Binary.value_eq, hzero, Nat.cast_zero, zero_mul] at hvalue
        exact absurd hvalue (not_le.mpr (mul_pos (Nat.cast_pos.mpr hpos) (zpow_two_pos _)))
      rcases hcases' with ⟨hzero, -⟩ | ⟨-, h'⟩
      · omega
      rw [h, h']
      by_contra hlt
      -- Decimals the other way round are of one binary value, and so they are the same.
      obtain ⟨-, hround⟩ := rounded_shortest hcanonical hpos
      obtain ⟨hdecimal', hround'⟩ := rounded_shortest hcanonical' hpos'
      have hvalue' := value_le_of_rounded hdecimal' (not_le.mp hlt).le hround' hround
      rw [hcanonical.eq_of_value_eq hcanonical' (hvalue.antisymm hvalue')] at hlt
      exact hlt le_rfl

/-- Rounding to the shortest decimal keeps the order. -/
theorem ofRational_mono : Monotone ofRational := by
  rw [ofRational_eq]
  apply signed_mono <;> rw [← ofRational_eq]
  · exact ofRational_nonneg
  · exact ofRational_le_of_pos

/-! ## The binary values of numbers -/

/-- The value of a binary value. -/
def binarySize : Option Binary → ℚ
  | some b => b.value
  | none => beyond

lemma binaryValue_eq : binaryValue = signed binarySize := by
  funext r
  unfold binaryValue signed rounded
  cases nearest r.num.natAbs r.den <;> rfl

lemma binaryValue_cases {r : ℚ} (hr : 0 < r) :
    rounded r = none ∧ binaryValue r = beyond
      ∨ ∃ b, rounded r = some b ∧ b.IsCanonical ∧ binaryValue r = b.value := by
  rw [binaryValue_eq, signed_of_pos hr]
  cases hround : rounded r with
  | none => exact .inl ⟨rfl, rfl⟩
  | some b => exact .inr ⟨b, rfl, (isCanonical_of_rounded hr hround).2, rfl⟩

lemma Binary.value_nonneg (b : Binary) : 0 ≤ b.value := by
  rw [value_eq]
  exact mul_nonneg (Nat.cast_nonneg _) (zpow_two_pos _).le

lemma binaryValue_nonneg {r : ℚ} (hr : 0 < r) : 0 ≤ binaryValue r := by
  rcases binaryValue_cases hr with ⟨-, h⟩ | ⟨b, -, -, h⟩
  · exact h ▸ beyond_pos.le
  · exact h ▸ b.value_nonneg

lemma binaryValue_le_of_pos {r r' : ℚ} (hr : 0 < r) (hle : r ≤ r') :
    binaryValue r ≤ binaryValue r' := by
  rcases binaryValue_cases (hr.trans_le hle) with ⟨-, h'⟩ | ⟨b', hb', -, h'⟩
  · rcases binaryValue_cases hr with ⟨-, h⟩ | ⟨b, -, hb, h⟩
    · rw [h, h']
    · rw [h, h']
      exact hb.lt_beyond.le
  · obtain ⟨b, hb⟩ := exists_rounded_of_le hr hle hb'
    rcases binaryValue_cases hr with ⟨hnone, -⟩ | ⟨c, hc, -, h⟩
    · rw [hb] at hnone
      cases hnone
    · rw [h, h']
      exact value_le_of_rounded hr hle hc hb'

/-- The binary values of numbers are in the order of the numbers. -/
theorem binaryValue_mono : Monotone binaryValue := by
  rw [binaryValue_eq]
  apply signed_mono <;> rw [← binaryValue_eq]
  · exact binaryValue_nonneg
  · exact binaryValue_le_of_pos

/-! ## Small integers -/

lemma isRounded_natCast {n : ℕ} (hn : 0 < n) (hlt : n < 2 ^ 53) : IsRounded (n : ℚ) n := by
  have hpos : (0 : ℚ) < n := Nat.cast_pos.mpr hn
  have hlog : Int.log 2 (n : ℚ) < 53 := by
    apply (Int.lt_zpow_iff_log_lt (by decide) hpos).mp
    exact_mod_cast hlt
  have hexponent : binaryExponent n ≤ 0 := max_le (by omega) (by decide)
  apply isRounded_self (m := n * 2 ^ (-binaryExponent n).toNat)
  have hcast : ((-binaryExponent n).toNat : ℤ) = -binaryExponent n := Int.toNat_of_nonneg (by omega)
  rw [Nat.cast_mul, Nat.cast_pow, Nat.cast_ofNat, mul_assoc, two_pow_mul, hcast,
    neg_add_cancel, zpow_zero, mul_one]

/-- The binary value nearest to a small integer is the integer. -/
lemma exists_rounded_natCast {n : ℕ} (hn : 0 < n) (hlt : n < 2 ^ 53) :
    ∃ b, rounded (n : ℚ) = some b ∧ b.value = n ∧ b.IsCanonical := by
  have hpos : (0 : ℚ) < n := Nat.cast_pos.mpr hn
  have hself := isRounded_natCast hn hlt
  obtain ⟨v, hv, hcases⟩ := rounded_cases hpos
  obtain rfl : v = n := (hv.mono hpos hself le_rfl).antisymm (hself.mono hpos hv le_rfl)
  rcases hcases with ⟨-, hge⟩ | ⟨b, hb, hvalue, hcanonical⟩
  · have hwithin : (n : ℚ) < beyond := by
      rw [beyond_eq]
      calc (n : ℚ) < 2 ^ (53 : ℤ) := by exact_mod_cast hlt
        _ ≤ 2 ^ (1024 : ℤ) := zpow_le_zpow_right₀ one_le_two (by decide)
    exact absurd hge (not_le.mpr hwithin)
  · exact ⟨b, hb, hvalue, hcanonical⟩

/-- A small integer is the only integer that rounds to it. -/
lemma eq_of_rounded_natCast {n k : ℕ} (hn : 0 < n) (hlt : n + 1 < 2 ^ 53) (hk : 0 < k) {b : Binary}
    (hb : b.value = n) (h : rounded (k : ℚ) = some b) : k = n := by
  have hround := (isCanonical_of_rounded (Nat.cast_pos.mpr hk) h).1
  rw [hb] at hround
  rcases lt_trichotomy k n with hless | heq | hmore
  · have hself := isRounded_natCast hk (by omega)
    have hle := hround.mono (Nat.cast_pos.mpr hk) hself le_rfl
    exact absurd (Nat.cast_le.mp hle) (by omega)
  · exact heq
  · have hself := isRounded_natCast (Nat.succ_pos n) hlt
    have hle := hself.mono (Nat.cast_pos.mpr n.succ_pos) hround (by exact_mod_cast hmore)
    exact absurd (Nat.cast_le.mp hle) (by omega)

/-- The shortest decimal of a small integer is the integer. -/
lemma shortestDecimal_natCast {n : ℕ} (hn : 0 < n) (hlt : n + 1 < 2 ^ 53) {b : Binary}
    (hb : b.value = n) (hround : rounded (n : ℚ) = some b) : shortestDecimal b = n := by
  have hbelow : decimalBelow b 0 = n := by
    have hfloor := decimalBelow_eq_floor b 0
    rw [hb, zpow_zero, div_one, Int.floor_natCast] at hfloor
    exact_mod_cast hfloor
  have hsome : (shortestWith b 0).isSome := by
    apply isSome_shortestWith (by rwa [hbelow])
    rwa [hbelow, zpow_zero, mul_one]
  have hstart : searchStart b = digitCount n := by
    have hwhole : b.significand * (twoPow b.exponent).1 / (twoPow b.exponent).2 = n := by
      rw [← hbelow, decimalBelow]
      change _ = _ * 1 / (_ * 1)
      rw [Nat.mul_one, Nat.mul_one]
    rw [searchStart, hwhole, if_pos hn]
  have hdigits : digitCount n ≤ 16 := by
    apply (digitCount_le_iff (by decide)).mpr
    omega
  -- An integer is a decimal without places after the point, so the search ends before these.
  obtain ⟨m, e, hfound, hwith, he⟩ := exists_shortestFrom hsome 25 (e := searchStart b)
    (by omega) (by omega)
  obtain ⟨hm, hrounded⟩ := roundsTo_of_shortestWith hwith
  obtain ⟨e, rfl⟩ := Int.eq_ofNat_of_zero_le he
  have hcast : (m : ℚ) * 10 ^ (e : ℤ) = ((m * 10 ^ e : ℕ) : ℚ) := by
    push_cast
    rw [zpow_natCast]
  have hshortest : shortest b = (m, (e : ℤ)) := hfound
  rw [shortestDecimal, hshortest]
  rw [hcast] at hrounded ⊢
  rw [eq_of_rounded_natCast hn hlt (Nat.mul_pos hm (by positivity)) hb hrounded]

/-- A function with a sign that keeps small natural numbers keeps small integers. -/
lemma signed_intCast {bound : ℕ}
    (h : ∀ n : ℕ, 0 < n → n < bound → signed size n = n) {k : ℤ} (hk : k.natAbs < bound) :
    signed size k = k := by
  rcases lt_trichotomy k 0 with hneg | rfl | hpos
  · have habs := h k.natAbs (by omega) hk
    have hcast : ((k.natAbs : ℕ) : ℚ) = -(k : ℚ) := by
      rw [Nat.cast_natAbs, abs_of_neg hneg, Int.cast_neg]
    rw [hcast, signed_neg] at habs
    exact neg_injective habs
  · rfl
  · have habs := h k.natAbs (by omega) hk
    rwa [Nat.cast_natAbs, abs_of_pos hpos] at habs

lemma ofRational_intCast {k : ℤ} (hk : k.natAbs < 2 ^ 53 - 1) : ofRational k = k := by
  rw [ofRational_eq]
  apply signed_intCast _ hk
  intro n hn hlt
  obtain ⟨b, hb, hvalue, -⟩ := exists_rounded_natCast hn (by omega)
  have hpos : 0 < b.significand := by
    apply Nat.pos_of_ne_zero
    intro hzero
    rw [Binary.value_eq, hzero, Nat.cast_zero, zero_mul] at hvalue
    exact absurd (Nat.cast_eq_zero.mp hvalue.symm) hn.ne'
  rw [signed_of_pos (Nat.cast_pos.mpr hn), hb, decimalSize, if_neg]
  · exact shortestDecimal_natCast hn (by omega) hvalue hb
  · rw [beq_iff_eq]
    exact hpos.ne'

lemma binaryValue_intCast {k : ℤ} (hk : k.natAbs < 2 ^ 53) : binaryValue k = k := by
  rw [binaryValue_eq]
  apply signed_intCast _ hk
  intro n hn hlt
  obtain ⟨b, hb, hvalue, -⟩ := exists_rounded_natCast hn hlt
  rw [signed_of_pos (Nat.cast_pos.mpr hn), hb, binarySize, hvalue]

/-! ## Differences -/

lemma exists_of_isSmallInteger {n : Number} (h : isSmallInteger n = true) :
    ∃ k : ℤ, n = k ∧ k.natAbs < 2 ^ 52 := by
  rw [isSmallInteger, Bool.and_eq_true, beq_iff_eq, decide_eq_true_eq] at h
  exact ⟨n.num, (Rat.den_eq_one_iff n).mp h.1 |>.symm, h.2⟩

/-- Nothing is lost by not rounding the differences of small integers. -/
lemma minus_eq (a b : Number) : minus a b = ofRational (binaryValue a - binaryValue b) := by
  rw [minus]
  split
  · next h =>
    rw [Bool.and_eq_true] at h
    obtain ⟨j, rfl, hj⟩ := exists_of_isSmallInteger h.1
    obtain ⟨k, rfl, hk⟩ := exists_of_isSmallInteger h.2
    rw [binaryValue_intCast (by omega), binaryValue_intCast (by omega), ← Int.cast_sub,
      ofRational_intCast (by omega)]
  · rfl

/-- Rounded differences are in the order of the exact ones. -/
theorem minus_le_minus {a a' b b' : Number} (ha : a ≤ a') (hb : b' ≤ b) :
    minus a b ≤ minus a' b' := by
  rw [minus_eq, minus_eq]
  exact ofRational_mono (sub_le_sub (binaryValue_mono ha) (binaryValue_mono hb))

end CallAtlas.Number
