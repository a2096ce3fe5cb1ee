import CallAtlas.Proofs.Number.Digits
import Mathlib.Algebra.Order.Field.Power
import Mathlib.Data.Int.Log
import Mathlib.Data.Rat.Floor
import Mathlib.Algebra.Order.Group.Basic
import Mathlib.Tactic.FieldSimp
import Mathlib.Tactic.Linarith
import Mathlib.Tactic.NormNum
import Mathlib.Tactic.Positivity
import Mathlib.Tactic.Ring

/-!
# Rounding to binary values

A positive number is rounded to the nearest multiple of a power of two, and a tie goes to the even
multiple. The power depends on the size of the number, so that the multiples have 53 binary digits,
or fewer for the smallest numbers. Rounding keeps the order of numbers, and what is nearest to a
fraction depends on its value alone.
-/

namespace CallAtlas.Number

/-! ## Whole numbers -/

/-- A whole number that is nearest to a number; of two the even one. -/
structure IsNearestWhole (r : ℚ) (m : ℕ) : Prop where
  sub_half_le : (m : ℚ) - 1 / 2 ≤ r
  le_add_half : r ≤ m + 1 / 2
  even : r = m - 1 / 2 ∨ r = m + 1 / 2 → Even m

/-- Rounding to whole numbers keeps the order, as of two neighbours only one is even. -/
lemma IsNearestWhole.mono {r r' : ℚ} {m m' : ℕ} (h : IsNearestWhole r m)
    (h' : IsNearestWhole r' m') (hle : r ≤ r') : m ≤ m' := by
  by_contra hlt
  have hstep : (m' : ℚ) + 1 ≤ m := by exact_mod_cast Nat.not_le.mp hlt
  have hlow := h.sub_half_le
  have hhigh := h'.le_add_half
  have heven : Even m := h.even (.inl (by linarith))
  have heven' : Even m' := h'.even (.inr (by linarith))
  have hnext : m = m' + 1 := by
    have hcast : (m : ℚ) = m' + 1 := by linarith
    exact_mod_cast hcast
  rw [hnext] at heven
  exact Nat.even_add_one.mp heven heven'

/-- Up to a half, a fraction is dropped. -/
lemma isNearestWhole_of_le {q : ℕ} {f : ℚ} (hnonneg : 0 ≤ f) (hle : f ≤ 1 / 2)
    (heven : f = 1 / 2 → Even q) : IsNearestWhole (q + f) q := by
  refine ⟨by linarith, by linarith, ?_⟩
  rintro (h | h)
  · exact absurd h (by linarith)
  · exact heven (by linarith)

/-- From a half on, a fraction is made up to one. -/
lemma isNearestWhole_of_ge {q : ℕ} {f : ℚ} (hlt : f < 1) (hge : 1 / 2 ≤ f)
    (heven : f = 1 / 2 → Even (q + 1)) : IsNearestWhole (q + f) (q + 1) := by
  refine ⟨by push_cast; linarith, by push_cast; linarith, ?_⟩
  push_cast
  rintro (h | h)
  · exact heven (by linarith)
  · exact absurd h (by linarith)

/-- Division with rounding gives the nearest whole number. -/
lemma isNearestWhole_roundDiv (n : ℕ) {d : ℕ} (hd : 0 < d) :
    IsNearestWhole ((n : ℚ) / d) (roundDiv n d) := by
  have hdiv : d * (n / d) + n % d = n := Nat.div_add_mod n d
  have hdpos : (0 : ℚ) < d := by exact_mod_cast hd
  have hvalue : (n : ℚ) / d = (n / d : ℕ) + ((n % d : ℕ) : ℚ) / d := by
    rw [div_eq_iff hdpos.ne', add_mul, div_mul_cancel₀ _ hdpos.ne']
    exact_mod_cast (by rw [Nat.mul_comm]; exact hdiv.symm)
  rw [hvalue]
  -- the fraction that is left lies between zero and one
  set f : ℚ := ((n % d : ℕ) : ℚ) / d with hf
  have hnonneg : 0 ≤ f := by positivity
  have hlt : f < 1 := (div_lt_one hdpos).mpr (by exact_mod_cast Nat.mod_lt n hd)
  have hhalf : f < 1 / 2 ↔ 2 * (n % d) < d := by
    rw [hf, div_lt_iff₀ hdpos, ← Nat.cast_lt (α := ℚ)]
    push_cast
    constructor <;> intro h <;> linarith
  have hhalf' : 1 / 2 < f ↔ d < 2 * (n % d) := by
    rw [hf, lt_div_iff₀ hdpos, ← Nat.cast_lt (α := ℚ)]
    push_cast
    constructor <;> intro h <;> linarith
  rw [roundDiv]
  split
  · next h =>
    exact isNearestWhole_of_le hnonneg (hhalf.mpr h).le fun heq => absurd heq (hhalf.mpr h).ne
  · next hge =>
    have hge' : 1 / 2 ≤ f := not_lt.mp fun h => hge (hhalf.mp h)
    split
    · next h => exact isNearestWhole_of_ge hlt hge' fun heq => absurd heq (hhalf'.mpr h).ne'
    · next hle =>
      have hle' : f ≤ 1 / 2 := not_lt.mp fun h => hle (hhalf'.mp h)
      split
      · next heven =>
        exact isNearestWhole_of_le hnonneg hle' fun _ => Nat.even_iff.mpr (beq_iff_eq.mp heven)
      · next hodd =>
        rw [beq_iff_eq] at hodd
        exact isNearestWhole_of_ge hlt hge' fun _ =>
          Nat.even_add_one.mpr fun heven => hodd (Nat.even_iff.mp heven)

/-! ## Powers as fractions -/

lemma zpow_two_pos (e : ℤ) : (0 : ℚ) < 2 ^ e := zpow_pos two_pos e

lemma twoPow_div (e : ℤ) : ((twoPow e).1 : ℚ) / (twoPow e).2 = 2 ^ e := by
  cases e with
  | ofNat n =>
    rw [twoPow, Nat.cast_one, div_one, Nat.pow_eq, Nat.cast_pow, Int.ofNat_eq_natCast, zpow_natCast]
    norm_num
  | negSucc n =>
    rw [twoPow, Nat.cast_one, Nat.pow_eq, Nat.cast_pow, zpow_negSucc, one_div]
    norm_num

lemma twoPow_pos (e : ℤ) : 0 < (twoPow e).1 ∧ 0 < (twoPow e).2 := by
  cases e <;> exact ⟨by simp [twoPow], by simp [twoPow]⟩

lemma tenPow_div (e : ℤ) : ((tenPow e).1 : ℚ) / (tenPow e).2 = 10 ^ e := by
  cases e with
  | ofNat n =>
    rw [tenPow, Nat.cast_one, div_one, Nat.pow_eq, Nat.cast_pow, Int.ofNat_eq_natCast, zpow_natCast]
    norm_num
  | negSucc n =>
    rw [tenPow, Nat.cast_one, Nat.pow_eq, Nat.cast_pow, zpow_negSucc, one_div]
    norm_num

lemma tenPow_pos (e : ℤ) : 0 < (tenPow e).1 ∧ 0 < (tenPow e).2 := by
  cases e <;> exact ⟨by simp [tenPow], by simp [tenPow]⟩

lemma Binary.value_eq (b : Binary) : b.value = b.significand * 2 ^ b.exponent := by
  rw [← twoPow_div]
  change mkRat ((b.significand * (twoPow b.exponent).1 : ℕ) : ℤ) (twoPow b.exponent).2 = _
  rw [Rat.mkRat_eq_div, mul_div_assoc']
  push_cast
  rfl

lemma ofDecimal_eq (m : ℕ) (e : ℤ) : ofDecimal false m e = m * 10 ^ e := by
  rw [← tenPow_div]
  change mkRat ((m : ℤ) * ((tenPow e).1 : ℕ)) (tenPow e).2 = _
  rw [Rat.mkRat_eq_div, mul_div_assoc']
  push_cast
  rfl

lemma two_pow_mul (k : ℕ) (e : ℤ) : (2 : ℚ) ^ k * 2 ^ e = 2 ^ ((k : ℤ) + e) := by
  rw [zpow_add₀ two_ne_zero, zpow_natCast]

lemma beyond_eq : beyond = 2 ^ (1024 : ℤ) := by
  decide +kernel

lemma beyond_pos : 0 < beyond := by
  rw [beyond_eq]
  exact zpow_two_pos _

/-! ## The nearest binary value -/

/-- The exponent of the binary values next to a positive number. -/
def binaryExponent (r : ℚ) : ℤ := max (Int.log 2 r - 52) minExponent

/-- A number of the form `m · 2 ^ e` that is nearest to a positive number, however large it is. -/
def IsRounded (r v : ℚ) : Prop :=
  ∃ m : ℕ, IsNearestWhole (r / 2 ^ binaryExponent r) m ∧ v = m * 2 ^ binaryExponent r

/-- The significand of a rounded number has 53 digits, or it is the next power of two, and it has
fewer only at the least exponent. -/
lemma IsNearestWhole.bounds {r : ℚ} (hr : 0 < r) {m : ℕ}
    (h : IsNearestWhole (r / 2 ^ binaryExponent r) m) :
    m ≤ 2 ^ 53 ∧ (binaryExponent r ≠ minExponent → 2 ^ 52 ≤ m) := by
  have hlow := h.sub_half_le
  have hhigh := h.le_add_half
  constructor
  · -- The exponent is at least the one at which the number has 53 digits before the point.
    have hlt : r / 2 ^ binaryExponent r < 2 ^ 53 := by
      rw [div_lt_iff₀ (zpow_two_pos _)]
      calc r < 2 ^ (Int.log 2 r + 1) := Int.lt_zpow_succ_log_self (by decide) r
        _ ≤ 2 ^ (53 + binaryExponent r) := by
          apply zpow_le_zpow_right₀ one_le_two
          have := le_max_left (Int.log 2 r - 52) minExponent
          rw [binaryExponent]
          omega
        _ = 2 ^ 53 * 2 ^ binaryExponent r := by
          rw [zpow_add₀ two_ne_zero]
          norm_num
    have hcast : (m : ℚ) < ((2 ^ 53 + 1 : ℕ) : ℚ) := by
      push_cast
      linarith
    exact Nat.lt_succ_iff.mp (by exact_mod_cast hcast)
  · -- Above the least exponent it is this one.
    intro hne
    have hexponent : binaryExponent r = Int.log 2 r - 52 := by
      rcases max_choice (Int.log 2 r - 52) minExponent with h | h
      · exact h
      · exact absurd h hne
    have hge : 2 ^ 52 ≤ r / 2 ^ binaryExponent r := by
      rw [le_div_iff₀ (zpow_two_pos _), hexponent]
      calc (2 : ℚ) ^ 52 * 2 ^ (Int.log 2 r - 52) = 2 ^ Int.log 2 r := by
            rw [← zpow_natCast, ← zpow_add₀ two_ne_zero]
            congr 1
            push_cast
            ring
        _ ≤ r := Int.zpow_log_le_self (by decide) hr
    have hcast : ((2 ^ 52 : ℕ) : ℚ) < ((m + 1 : ℕ) : ℚ) := by
      push_cast
      linarith
    exact Nat.lt_succ_iff.mp (by exact_mod_cast hcast)

/-- Rounding keeps the order. -/
lemma IsRounded.mono {r r' v v' : ℚ} (hr : 0 < r) (h : IsRounded r v) (h' : IsRounded r' v')
    (hle : r ≤ r') : v ≤ v' := by
  obtain ⟨m, hm, rfl⟩ := h
  obtain ⟨m', hm', rfl⟩ := h'
  have hexponent : binaryExponent r ≤ binaryExponent r' :=
    max_le_max_right _ (Int.sub_le_sub_right (Int.log_mono_right hr hle) 52)
  rcases hexponent.eq_or_lt with heq | hlt
  · rw [← heq] at hm' ⊢
    have hmono := hm.mono hm' (div_le_div_of_nonneg_right hle (zpow_two_pos _).le)
    exact mul_le_mul_of_nonneg_right (by exact_mod_cast hmono) (zpow_two_pos _).le
  · -- With a larger exponent the significand has all its digits.
    have hfew := (hm.bounds hr).1
    have hmany := (hm'.bounds (hr.trans_le hle)).2
      (ne_of_gt ((le_max_right _ _).trans_lt hlt))
    calc (m : ℚ) * 2 ^ binaryExponent r ≤ 2 ^ 53 * 2 ^ binaryExponent r :=
          mul_le_mul_of_nonneg_right (by exact_mod_cast hfew) (zpow_two_pos _).le
      _ = 2 ^ 52 * 2 ^ (binaryExponent r + 1) := by
          rw [zpow_add₀ two_ne_zero]
          ring
      _ ≤ 2 ^ 52 * 2 ^ binaryExponent r' := by
          apply mul_le_mul_of_nonneg_left _ (by norm_num)
          exact zpow_le_zpow_right₀ one_le_two (by omega)
      _ ≤ m' * 2 ^ binaryExponent r' :=
          mul_le_mul_of_nonneg_right (by exact_mod_cast hmany) (zpow_two_pos _).le

/-- A multiple of the power of two that it is rounded to is not changed. -/
lemma isRounded_self {r : ℚ} {m : ℕ} (h : r = m * 2 ^ binaryExponent r) : IsRounded r r := by
  refine ⟨m, ?_, h⟩
  have hvalue : r / 2 ^ binaryExponent r = m := by
    rw [div_eq_iff (zpow_two_pos _).ne']
    exact h
  rw [hvalue]
  refine ⟨by linarith, by linarith, ?_⟩
  rintro (h | h) <;> exact absurd h (by linarith)

/-- The logarithm of a number between two powers. -/
lemma log_eq {r : ℚ} {e : ℤ} (hle : 2 ^ e ≤ r) (hlt : r < 2 ^ (e + 1)) : Int.log 2 r = e := by
  have hr : 0 < r := (zpow_two_pos e).trans_le hle
  have hge := (Int.zpow_le_iff_le_log (b := 2) (by decide) hr).mp (by exact_mod_cast hle)
  have hless := (Int.lt_zpow_iff_log_lt (b := 2) (by decide) hr).mp (by exact_mod_cast hlt)
  omega

/-- The logarithm of a fraction from the numbers of digits of its parts. -/
lemma log_div {n d : ℕ} (hn : 0 < n) (hd : 0 < d) :
    Int.log 2 ((n : ℚ) / d)
      = if n * (twoPow (n.log2 - d.log2)).2 < d * (twoPow (n.log2 - d.log2)).1
        then (n.log2 : ℤ) - d.log2 - 1 else (n.log2 : ℤ) - d.log2 := by
  set l : ℤ := (n.log2 : ℤ) - d.log2 with hl
  have hdpos : (0 : ℚ) < d := by exact_mod_cast hd
  have hn1 : (2 : ℚ) ^ n.log2 ≤ n := by exact_mod_cast Nat.log2_self_le hn.ne'
  have hn2 : (n : ℚ) < 2 ^ (n.log2 + 1) := by exact_mod_cast Nat.lt_log2_self
  have hd1 : (2 : ℚ) ^ d.log2 ≤ d := by exact_mod_cast Nat.log2_self_le hd.ne'
  have hd2 : (d : ℚ) < 2 ^ (d.log2 + 1) := by exact_mod_cast Nat.lt_log2_self
  -- The numbers of digits leave two logarithms, and comparing with a power of two decides.
  have hlow : (2 : ℚ) ^ (l - 1) ≤ n / d := by
    rw [le_div_iff₀ hdpos]
    calc (2 : ℚ) ^ (l - 1) * d ≤ 2 ^ (l - 1) * 2 ^ (d.log2 + 1) :=
          mul_le_mul_of_nonneg_left hd2.le (zpow_two_pos _).le
      _ = 2 ^ n.log2 := by
          rw [← zpow_natCast, ← zpow_natCast, ← zpow_add₀ two_ne_zero]
          congr 1
          push_cast
          omega
      _ ≤ n := hn1
  have hhigh : (n : ℚ) / d < 2 ^ (l + 1) := by
    rw [div_lt_iff₀ hdpos]
    calc (n : ℚ) < 2 ^ (n.log2 + 1) := hn2
      _ = 2 ^ (l + 1) * 2 ^ d.log2 := by
          rw [← zpow_natCast, ← zpow_natCast, ← zpow_add₀ two_ne_zero]
          congr 1
          push_cast
          omega
      _ ≤ 2 ^ (l + 1) * d := mul_le_mul_of_nonneg_left hd1 (zpow_two_pos _).le
  have hbelow : n * (twoPow l).2 < d * (twoPow l).1 ↔ (n : ℚ) / d < 2 ^ l := by
    have hq : (0 : ℚ) < (twoPow l).2 := by exact_mod_cast (twoPow_pos l).2
    rw [← twoPow_div, div_lt_div_iff₀ hdpos hq, mul_comm ((twoPow l).1 : ℚ)]
    exact_mod_cast Iff.rfl
  split
  · next h => exact log_eq hlow (by rw [sub_add_cancel]; exact hbelow.mp h)
  · next h => exact log_eq (not_lt.mp fun hlt => h (hbelow.mpr hlt)) hhigh

/-- Binary values in their only form: the significand has 53 digits, or fewer at the least
exponent. -/
structure Binary.IsCanonical (b : Binary) : Prop where
  significand_lt : b.significand < 2 ^ 53
  le_exponent : minExponent ≤ b.exponent
  exponent_le : b.exponent ≤ maxExponent
  le_significand : b.exponent ≠ minExponent → 2 ^ 52 ≤ b.significand

/-- No binary value is too large for the format. -/
lemma Binary.IsCanonical.lt_beyond {b : Binary} (h : b.IsCanonical) : b.value < beyond := by
  rw [value_eq]
  calc (b.significand : ℚ) * 2 ^ b.exponent < 2 ^ 53 * 2 ^ b.exponent :=
        mul_lt_mul_of_pos_right (by exact_mod_cast h.significand_lt) (zpow_two_pos _)
    _ ≤ 2 ^ 53 * 2 ^ maxExponent := by
        apply mul_le_mul_of_nonneg_left _ (by norm_num)
        exact zpow_le_zpow_right₀ one_le_two h.exponent_le
    _ = beyond := by
        rw [two_pow_mul, beyond_eq]
        rfl

/-- Binary values of different exponents differ. -/
lemma Binary.IsCanonical.value_lt {b b' : Binary} (h : b.IsCanonical) (h' : b'.IsCanonical)
    (hlt : b.exponent < b'.exponent) : b.value < b'.value := by
  have hmany := h'.le_significand (ne_of_gt (h.le_exponent.trans_lt hlt))
  rw [value_eq, value_eq]
  calc (b.significand : ℚ) * 2 ^ b.exponent < 2 ^ 53 * 2 ^ b.exponent :=
        mul_lt_mul_of_pos_right (by exact_mod_cast h.significand_lt) (zpow_two_pos _)
    _ = 2 ^ 52 * 2 ^ (b.exponent + 1) := by
        rw [zpow_add₀ two_ne_zero]
        ring
    _ ≤ 2 ^ 52 * 2 ^ b'.exponent := by
        apply mul_le_mul_of_nonneg_left _ (by norm_num)
        exact zpow_le_zpow_right₀ one_le_two (by omega)
    _ ≤ b'.significand * 2 ^ b'.exponent :=
        mul_le_mul_of_nonneg_right (by exact_mod_cast hmany) (zpow_two_pos _).le

/-- A binary value is known by its size. -/
lemma Binary.IsCanonical.eq_of_value_eq {b b' : Binary} (h : b.IsCanonical) (h' : b'.IsCanonical)
    (heq : b.value = b'.value) : b = b' := by
  rcases lt_trichotomy b.exponent b'.exponent with hlt | hexponent | hlt
  · exact absurd heq (h.value_lt h' hlt).ne
  · have hsignificand : b.significand = b'.significand := by
      rw [value_eq, value_eq, hexponent] at heq
      exact_mod_cast mul_right_cancel₀ (zpow_two_pos b'.exponent).ne' heq
    cases b
    cases b'
    simp_all only
  · exact absurd heq (h'.value_lt h hlt).ne'

/-- The significand that a positive fraction is rounded to. -/
def significandOf (n d : ℕ) : ℕ :=
  let p := twoPow (binaryExponent ((n : ℚ) / d))
  roundDiv (n * p.2) (d * p.1)

lemma isNearestWhole_significandOf (n : ℕ) {d : ℕ} (hd : 0 < d) :
    IsNearestWhole ((n : ℚ) / d / 2 ^ binaryExponent ((n : ℚ) / d)) (significandOf n d) := by
  set p := twoPow (binaryExponent ((n : ℚ) / d)) with hp
  have hscaled : (n : ℚ) / d / 2 ^ binaryExponent ((n : ℚ) / d)
      = ((n * p.2 : ℕ) : ℚ) / ((d * p.1 : ℕ) : ℚ) := by
    rw [← twoPow_div, div_div_div_eq]
    push_cast
    rfl
  rw [hscaled]
  exact isNearestWhole_roundDiv _ (Nat.mul_pos hd (twoPow_pos _).1)

/-- The exponent is found from the numbers of digits, and the significand may carry. -/
lemma nearest_eq {n d : ℕ} (hn : 0 < n) (hd : 0 < d) :
    nearest n d = (let e := binaryExponent ((n : ℚ) / d)
      if significandOf n d = 2 ^ 53 then
        if maxExponent < e + 1 then none else some ⟨2 ^ 52, e + 1⟩
      else if maxExponent < e then none else some ⟨significandOf n d, e⟩) := by
  have hguess : max (if n * (twoPow (n.log2 - d.log2)).2 < d * (twoPow (n.log2 - d.log2)).1
      then (n.log2 : ℤ) - d.log2 - 53 else (n.log2 : ℤ) - d.log2 - 53 + 1) minExponent
      = binaryExponent ((n : ℚ) / d) := by
    rw [binaryExponent, log_div hn hd]
    split <;> congr 1 <;> ring
  unfold nearest
  simp only [precision, Nat.cast_ofNat, sub_add_cancel, hguess, Nat.pow_eq, beq_iff_eq]
  unfold significandOf
  split <;> rfl

/-- With all digits and a larger exponent than the largest one a number is too large. -/
lemma beyond_le {m : ℕ} {e : ℤ} (hm : 2 ^ 52 ≤ m) (he : maxExponent < e) :
    beyond ≤ (m : ℚ) * 2 ^ e := by
  calc beyond = 2 ^ 52 * 2 ^ (972 : ℤ) := by rw [two_pow_mul, beyond_eq]; rfl
    _ ≤ (m : ℚ) * 2 ^ e := by
        apply mul_le_mul (by exact_mod_cast hm) _ (zpow_two_pos _).le (Nat.cast_nonneg m)
        exact zpow_le_zpow_right₀ one_le_two he

/-- What is nearest to a positive fraction: the rounded number, unless it is too large. -/
lemma nearest_cases {n d : ℕ} (hn : 0 < n) (hd : 0 < d) :
    ∃ v, IsRounded ((n : ℚ) / d) v
      ∧ (nearest n d = none ∧ beyond ≤ v
        ∨ ∃ b, nearest n d = some b ∧ b.value = v ∧ b.IsCanonical) := by
  have hpos : (0 : ℚ) < n / d := div_pos (by exact_mod_cast hn) (by exact_mod_cast hd)
  have hround := isNearestWhole_significandOf n hd
  obtain ⟨hfew, hmany⟩ := hround.bounds hpos
  refine ⟨_, ⟨_, hround, rfl⟩, ?_⟩
  rw [nearest_eq hn hd]
  set e := binaryExponent ((n : ℚ) / d)
  set m := significandOf n d
  have hmin : minExponent ≤ e := le_max_right _ _
  have hnone : minExponent < maxExponent := by decide
  by_cases hfull : m = 2 ^ 53
  · -- A significand with one digit too many carries into the next exponent.
    have hcarry : (m : ℚ) * 2 ^ e = ((2 ^ 52 : ℕ) : ℚ) * 2 ^ (e + 1) := by
      rw [hfull, zpow_add₀ two_ne_zero]
      push_cast
      ring
    rw [hcarry, if_pos hfull]
    split
    · next hbeyond => exact .inl ⟨rfl, beyond_le le_rfl hbeyond⟩
    · next hwithin =>
      refine .inr ⟨_, rfl, Binary.value_eq _, ?_⟩
      exact ⟨by norm_num, hmin.trans (Int.le_add_one le_rfl), not_lt.mp hwithin, fun _ => le_rfl⟩
  · rw [if_neg hfull]
    split
    · next hbeyond =>
      exact .inl ⟨rfl, beyond_le (hmany (ne_of_gt (hnone.trans hbeyond))) hbeyond⟩
    · next hwithin =>
      have hlt : m < 2 ^ 53 := lt_of_le_of_ne hfew hfull
      refine .inr ⟨_, rfl, Binary.value_eq _, ?_⟩
      exact ⟨hlt, hmin, not_lt.mp hwithin, hmany⟩

/-- The binary value nearest to a number. -/
def rounded (r : ℚ) : Option Binary := nearest r.num.natAbs r.den

lemma rounded_cases {r : ℚ} (hr : 0 < r) : ∃ v, IsRounded r v
    ∧ (rounded r = none ∧ beyond ≤ v
      ∨ ∃ b, rounded r = some b ∧ b.value = v ∧ b.IsCanonical) := by
  have hnum : 0 < r.num.natAbs := Int.natAbs_pos.mpr (Rat.num_pos.mpr hr).ne'
  have hvalue : ((r.num.natAbs : ℕ) : ℚ) / r.den = r := by
    have hcast : ((r.num.natAbs : ℕ) : ℚ) = (r.num : ℚ) := by
      rw [Nat.cast_natAbs, abs_of_pos (Rat.num_pos.mpr hr)]
    rw [hcast, Rat.num_div_den]
  have hcases := nearest_cases hnum r.den_pos
  rwa [hvalue] at hcases

lemma isCanonical_of_rounded {r : ℚ} (hr : 0 < r) {b : Binary} (h : rounded r = some b) :
    IsRounded r b.value ∧ b.IsCanonical := by
  obtain ⟨v, hv, ⟨hnone, -⟩ | ⟨b', hb', rfl, hcanonical⟩⟩ := rounded_cases hr
  · rw [hnone] at h
    cases h
  · obtain rfl := Option.some.inj (hb'.symm.trans h)
    exact ⟨hv, hcanonical⟩

/-- A binary value to which a number rounds is the nearest one. -/
lemma rounded_eq_some {r : ℚ} (hr : 0 < r) {b : Binary} (hb : b.IsCanonical)
    (h : IsRounded r b.value) : rounded r = some b := by
  obtain ⟨v, hv, hcases⟩ := rounded_cases hr
  have heq : v = b.value := (hv.mono hr h le_rfl).antisymm (h.mono hr hv le_rfl)
  rcases hcases with ⟨-, hge⟩ | ⟨b', hb', hvalue, hcanonical⟩
  · exact absurd hge (not_le.mpr (heq ▸ hb.lt_beyond))
  · rw [hb', hcanonical.eq_of_value_eq hb (hvalue.trans heq)]

/-- Which binary value is nearest does not depend on how a number is written as a fraction. -/
lemma nearest_eq_rounded {n d : ℕ} (hn : 0 < n) (hd : 0 < d) :
    nearest n d = rounded ((n : ℚ) / d) := by
  have hpos : (0 : ℚ) < n / d := div_pos (by exact_mod_cast hn) (by exact_mod_cast hd)
  obtain ⟨v, hv, ⟨hnone, hge⟩ | ⟨b, hb, rfl, hcanonical⟩⟩ := nearest_cases hn hd
  · obtain ⟨v', hv', ⟨hnone', -⟩ | ⟨b', -, rfl, hcanonical'⟩⟩ := rounded_cases hpos
    · rw [hnone, hnone']
    · exact absurd hge (not_le.mpr ((hv.mono hpos hv' le_rfl).trans_lt hcanonical'.lt_beyond))
  · rw [hb, rounded_eq_some hpos hcanonical hv]

/-- The nearest binary values of numbers are in the order of the numbers. -/
lemma value_le_of_rounded {r r' : ℚ} (hr : 0 < r) (hle : r ≤ r') {b b' : Binary}
    (h : rounded r = some b) (h' : rounded r' = some b') : b.value ≤ b'.value :=
  (isCanonical_of_rounded hr h).1.mono hr (isCanonical_of_rounded (hr.trans_le hle) h').1 hle

/-- A number below one that has a nearest binary value has one, too. -/
lemma exists_rounded_of_le {r r' : ℚ} (hr : 0 < r) (hle : r ≤ r') {b' : Binary}
    (h' : rounded r' = some b') : ∃ b, rounded r = some b := by
  obtain ⟨hv', hcanonical⟩ := isCanonical_of_rounded (hr.trans_le hle) h'
  obtain ⟨v, hv, ⟨-, hge⟩ | ⟨b, hb, -⟩⟩ := rounded_cases hr
  · exact absurd hge (not_le.mpr ((hv.mono hr hv' hle).trans_lt hcanonical.lt_beyond))
  · exact ⟨b, hb⟩

/-- A number with a nearest binary value is within the format. -/
lemma lt_of_rounded {r : ℚ} (hr : 0 < r) {b : Binary} (h : rounded r = some b) : r < beyond := by
  by_contra hge
  have hself : IsRounded beyond beyond := by
    apply isRounded_self (m := 2 ^ 52)
    have hlog : Int.log 2 beyond = 1024 := by
      rw [beyond_eq]
      exact_mod_cast Int.log_zpow (R := ℚ) (b := 2) (by decide) 1024
    have hexponent : binaryExponent beyond = 972 := by
      rw [binaryExponent, hlog]
      rfl
    rw [hexponent, beyond_eq, Nat.cast_pow, Nat.cast_ofNat, two_pow_mul]
    rfl
  obtain ⟨hv, hcanonical⟩ := isCanonical_of_rounded hr h
  exact absurd hcanonical.lt_beyond (not_lt.mpr (hself.mono beyond_pos hv (not_lt.mp hge)))

/-- The exponent next to a number with 53 digits before it. -/
lemma binaryExponent_eq {r : ℚ} {e : ℤ} (hmin : minExponent ≤ e) (hle : 2 ^ (e + 52) ≤ r)
    (hlt : r < 2 ^ (e + 52 + 1)) : binaryExponent r = e := by
  rw [binaryExponent, log_eq hle hlt, add_sub_cancel_right]
  exact max_eq_left hmin

lemma two_zpow_succ (e : ℤ) : (2 : ℚ) ^ e = 2 * 2 ^ (e - 1) := by
  rw [← zpow_one_add₀ two_ne_zero]
  congr 1
  ring

/-- Just below a binary value the exponent is that of the value, unless the value is a power of
two. -/
lemma binaryExponent_of_close {b : Binary} (hb : b.IsCanonical) {w : ℚ} (hw : 0 < w)
    (hle : w ≤ b.value) (hclose : b.value - 2 ^ b.exponent / 8 ≤ w) :
    binaryExponent w = b.exponent
      ∨ b.significand = 2 ^ 52 ∧ binaryExponent w = b.exponent - 1 := by
  have hunit := zpow_two_pos b.exponent
  have hvalue := b.value_eq
  have hpow : ∀ k : ℕ, (2 : ℚ) ^ (b.exponent + k) = 2 ^ k * 2 ^ b.exponent := by
    intro k
    rw [two_pow_mul, Int.add_comm]
  have hmax : (b.significand : ℚ) < 2 ^ 53 := by exact_mod_cast hb.significand_lt
  have hlt : w < 2 ^ (b.exponent + 52 + 1) := by
    rw [add_assoc]
    refine lt_of_lt_of_eq ?_ (hpow 53).symm
    exact (hvalue ▸ hle).trans_lt (mul_lt_mul_of_pos_right hmax hunit)
  rcases le_or_gt (2 ^ (b.exponent + 52)) w with hge | hsmall
  · exact .inl (binaryExponent_eq hb.le_exponent hge hlt)
  by_cases hmin : b.exponent = minExponent
  · -- Below the least exponent there is none to go to.
    left
    have hlog := (Int.lt_zpow_iff_log_lt (b := 2) (by decide) hw).mp (by exact_mod_cast hsmall)
    rw [binaryExponent, hmin]
    apply max_eq_right
    omega
  right
  -- The number is below the least significand of 53 digits and close to the value, which has it.
  have hmany : (2 : ℚ) ^ 52 ≤ b.significand := by exact_mod_cast hb.le_significand hmin
  have htop : (2 : ℚ) ^ (b.exponent + 52) = 2 ^ 52 * 2 ^ b.exponent := hpow 52
  constructor
  · apply Nat.le_antisymm _ (hb.le_significand hmin)
    have hcast : (b.significand : ℚ) < ((2 ^ 52 + 1 : ℕ) : ℚ) := by
      apply lt_of_mul_lt_mul_right _ hunit.le
      push_cast
      linarith
    exact Nat.lt_succ_iff.mp (by exact_mod_cast hcast)
  · have hbefore := hb.le_exponent
    apply binaryExponent_eq (by omega)
    · have hhalf : (2 : ℚ) ^ (b.exponent - 1 + 52) = 2 ^ 51 * 2 ^ b.exponent := by
        rw [← hpow 51]
        congr 1
        ring
      rw [hhalf]
      nlinarith
    · exact hsmall.trans_eq (by congr 1; ring)

/-- What lies just below a binary value is rounded to it. -/
lemma rounded_of_close {b : Binary} (hb : b.IsCanonical) {w : ℚ} (hw : 0 < w)
    (hle : w ≤ b.value) (hclose : b.value - 2 ^ b.exponent / 8 ≤ w) :
    rounded w = some b := by
  have hvalue := b.value_eq
  apply rounded_eq_some hw hb
  rcases binaryExponent_of_close hb hw hle hclose with hexponent | ⟨hfull, hexponent⟩
  · have hunit := zpow_two_pos b.exponent
    refine ⟨b.significand, ?_, by rw [hexponent, hvalue]⟩
    rw [hexponent]
    have hupper : w / 2 ^ b.exponent ≤ b.significand :=
      (div_le_iff₀ hunit).mpr (hvalue ▸ hle)
    have hlower : (b.significand : ℚ) - 1 / 8 ≤ w / 2 ^ b.exponent := by
      rw [le_div_iff₀ hunit]
      linarith
    refine ⟨by linarith, by linarith, ?_⟩
    rintro (h | h) <;> exact absurd h (by linarith)
  · -- The numbers below a power of two have the exponent before, so the significand carries.
    have hunit := zpow_two_pos (b.exponent - 1)
    have hstep : b.value = ((2 ^ 53 : ℕ) : ℚ) * 2 ^ (b.exponent - 1) := by
      rw [hvalue, hfull, two_zpow_succ b.exponent]
      push_cast
      ring
    rw [hstep, two_zpow_succ b.exponent] at hclose
    rw [hstep] at hle
    refine ⟨2 ^ 53, ?_, by rw [hexponent, hstep]⟩
    rw [hexponent]
    have hupper : w / 2 ^ (b.exponent - 1) ≤ ((2 ^ 53 : ℕ) : ℚ) := (div_le_iff₀ hunit).mpr hle
    have hlower : ((2 ^ 53 : ℕ) : ℚ) - 1 / 4 ≤ w / 2 ^ (b.exponent - 1) := by
      rw [le_div_iff₀ hunit]
      linarith
    refine ⟨by linarith, by linarith, ?_⟩
    rintro (h | h) <;> exact absurd h (by linarith)

end CallAtlas.Number
