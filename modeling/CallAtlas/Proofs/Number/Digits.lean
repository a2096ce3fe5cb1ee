import CallAtlas.Json.Reader
import CallAtlas.Proofs.Text.Characters
import Mathlib.Data.List.Induction
import Mathlib.Tactic.Ring

/-!
# Decimal digits

The text of a natural number is the only run of decimal digits of that value that does not start
with a zero it could do without. So the digits of a number are read back as the number, and a name
that is written like an array index is the text of the index.
-/

namespace CallAtlas

namespace Text

/-- The unit of a decimal digit. -/
def digit (d : ℕ) : CodeUnit := (48 + d).toUInt16

lemma ofNat_of_lt {n : ℕ} (h : n < 10) : ofNat n = [digit n] := by
  have hall : ∀ d : Fin 10, ofNat d = [digit d] := by decide
  exact hall ⟨n, h⟩

/-- The last digit comes off the end. -/
lemma ofNat_of_ge {n : ℕ} (h : 10 ≤ n) : ofNat n = ofNat (n / 10) ++ [digit (n % 10)] := by
  have hlast : n % 10 < 10 := Nat.mod_lt n (by decide)
  rw [ofNat, Nat.repr_of_ge h, ← Nat.repr_of_lt hlast, ofString_append]
  change ofNat (n / 10) ++ ofNat (n % 10) = _
  rw [ofNat_of_lt hlast]

lemma ofNat_ne_nil (n : ℕ) : ofNat n ≠ [] := by
  rcases Nat.lt_or_ge n 10 with h | h
  · rw [ofNat_of_lt h]
    exact List.cons_ne_nil _ _
  · rw [ofNat_of_ge h]
    exact List.append_ne_nil_of_right_ne_nil _ (List.cons_ne_nil _ _)

/-- A positive number does not start with a zero. -/
lemma head?_ofNat {n : ℕ} (h : 0 < n) : (ofNat n).head? ≠ some (unit '0') := by
  induction n using Nat.strongRecOn with
  | _ n ih =>
    rcases Nat.lt_or_ge n 10 with hlt | hge
    · have hall : ∀ d : Fin 10, 0 < d.val → digit d ≠ unit '0' := by decide
      rw [ofNat_of_lt hlt, List.head?_cons]
      intro heq
      exact hall ⟨n, hlt⟩ h (Option.some.inj heq)
    · rw [ofNat_of_ge hge, List.head?_append_of_ne_nil _ (ofNat_ne_nil _)]
      exact ih _ (Nat.div_lt_self h (by decide)) (Nat.div_pos hge (by decide))

lemma length_ofNat (n : ℕ) : (ofNat n).length = Number.digitCount n := by
  induction n using Nat.strongRecOn with
  | _ n ih =>
    rcases Nat.lt_or_ge n 10 with hlt | hge
    · rw [ofNat_of_lt hlt, Number.digitCount, Nat.repr_of_lt hlt, String.length_singleton]
      rfl
    · rw [ofNat_of_ge hge, List.length_append, ih _ (Nat.div_lt_self (by omega) (by decide)),
        Number.digitCount, Number.digitCount, Nat.repr_of_ge hge, String.length_append,
        String.length_singleton]
      rfl

/-- Characters of one unit each are written one by one. -/
lemma ofString_ofList_of_forall {cs : List Char} (h : ∀ c ∈ cs, c.toNat < 0x10000) :
    ofString (String.ofList cs) = cs.map fun c => c.toNat.toUInt16 := by
  rw [ofString, String.toList_ofList, List.map_eq_flatMap]
  apply List.flatMap_congr
  intro c hc
  rw [ofCodePoint, if_pos (h c hc)]

private lemma toNat_lt_of_mem_repr {n : ℕ} : ∀ c ∈ (Nat.repr n).toList, c.toNat < 0x10000 := by
  intro c hc
  rw [Nat.repr, String.toList_ofList] at hc
  have hdigit := Nat.isDigit_of_mem_toDigits (by decide) (by decide) hc
  rw [Char.isDigit, Bool.and_eq_true, decide_eq_true_eq, decide_eq_true_eq] at hdigit
  have hle : c.val.toNat ≤ 57 := UInt32.le_iff_toNat_le.mp hdigit.2
  exact Nat.lt_of_le_of_lt hle (by decide)

/-- The first digits of a number. -/
lemma ofString_take_repr (n k : ℕ) :
    ofString (String.ofList ((Nat.repr n).toList.take k)) = (ofNat n).take k := by
  have hall := ofString_ofList_of_forall (toNat_lt_of_mem_repr (n := n))
  rw [String.ofList_toList] at hall
  rw [ofString_ofList_of_forall fun c hc => toNat_lt_of_mem_repr c (List.mem_of_mem_take hc),
    ofNat, hall, List.map_take]

/-- The digits of a number after the first ones. -/
lemma ofString_drop_repr (n k : ℕ) :
    ofString (String.ofList ((Nat.repr n).toList.drop k)) = (ofNat n).drop k := by
  have hall := ofString_ofList_of_forall (toNat_lt_of_mem_repr (n := n))
  rw [String.ofList_toList] at hall
  rw [ofString_ofList_of_forall fun c hc => toNat_lt_of_mem_repr c (List.mem_of_mem_drop hc),
    ofNat, hall, List.map_drop]

end Text

namespace Number

lemma digitCount_le_iff {n k : ℕ} (h : 0 < k) : digitCount n ≤ k ↔ n < 10 ^ k := by
  rw [digitCount, Nat.repr, String.length_ofList]
  exact Nat.length_toDigits_le_iff (by decide) h

lemma digitCount_pos (n : ℕ) : 0 < digitCount n := by
  rw [← Text.length_ofNat]
  exact List.length_pos_iff.mpr (Text.ofNat_ne_nil n)

lemma pow_digitCount_le {n : ℕ} (hn : 0 < n) : 10 ^ (digitCount n - 1) ≤ n := by
  by_contra hlt
  have hone := digitCount_pos n
  rcases Nat.eq_zero_or_pos (digitCount n - 1) with hzero | hpos
  · rw [hzero] at hlt
    omega
  · have hle := (digitCount_le_iff hpos).mpr (Nat.not_le.mp hlt)
    omega

lemma lt_pow_digitCount (n : ℕ) : n < 10 ^ digitCount n :=
  (digitCount_le_iff (digitCount_pos n)).mp le_rfl

/-- Zeros at the end add to the number of digits. -/
lemma digitCount_mul_pow {n : ℕ} (h : 0 < n) (k : ℕ) :
    digitCount (n * 10 ^ k) = digitCount n + k := by
  have hpow : 0 < 10 ^ k := Nat.pow_pos (by decide)
  have hstep : ∀ c, 0 < c → (digitCount (n * 10 ^ k) ≤ c + k ↔ digitCount n ≤ c) := by
    intro c hc
    rw [digitCount_le_iff (by omega), digitCount_le_iff hc, Nat.pow_add]
    exact Nat.mul_lt_mul_right hpow
  apply Nat.le_antisymm
  · exact (hstep _ (digitCount_pos n)).mpr (Nat.le_refl _)
  · by_contra hlt
    have hone := digitCount_pos n
    rcases Nat.lt_or_ge (digitCount n) 2 with hsmall | htwo
    · -- A product with a power of ten has more digits than the power has zeros.
      have hk : digitCount (n * 10 ^ k) ≤ k := by omega
      rcases Nat.eq_zero_or_pos k with rfl | hkpos
      · have := digitCount_pos (n * 10 ^ 0)
        omega
      · have hless := (digitCount_le_iff hkpos).mp hk
        have hmul : 1 * 10 ^ k ≤ n * 10 ^ k := Nat.mul_le_mul_right _ h
        omega
    · have hless := (hstep (digitCount n - 1) (by omega)).mp (by omega)
      omega

end Number

namespace Json

open Text (digit)

lemma digitValue_digit {d : ℕ} (h : d < 10) : digitValue (digit d) = some d := by
  have hall : ∀ d : Fin 10, digitValue (digit d) = some d.val := by decide
  exact hall ⟨d, h⟩

lemma digitValue_eq_some {u : CodeUnit} {d : ℕ} (h : digitValue u = some d) :
    d < 10 ∧ u = digit d := by
  unfold digitValue at h
  split at h
  · next hin =>
    rw [Bool.and_eq_true, decide_eq_true_eq, decide_eq_true_eq, UInt16.le_iff_toNat_le,
      UInt16.le_iff_toNat_le] at hin
    have hlow : 48 ≤ u.toNat := hin.1
    have hhigh : u.toNat ≤ 57 := hin.2
    have hd : u.toNat - 48 = d := by
      rw [← Option.some.inj h, UInt16.toNat_sub_of_le _ _ (UInt16.le_iff_toNat_le.mpr hin.1)]
      rfl
    have hu : 48 + d = u.toNat := by omega
    refine ⟨by omega, ?_⟩
    rw [digit, hu, Nat.toUInt16_eq, UInt16.ofNat_toNat]
  · cases h

/-- The number that decimal digits stand for. -/
def valueOf (digits : Text) : ℕ := digits.foldl (fun n u => n * 10 + (digitValue u).getD 0) 0

lemma valueOf_concat (digits : Text) {d : ℕ} (h : d < 10) :
    valueOf (digits ++ [digit d]) = valueOf digits * 10 + d := by
  rw [valueOf, List.foldl_append, List.foldl_cons, List.foldl_nil, digitValue_digit h]
  rfl

lemma valueOf_append (a b : Text) : valueOf (a ++ b) = valueOf a * 10 ^ b.length + valueOf b := by
  induction b using List.reverseRecOn with
  | nil => simp [valueOf]
  | append_singleton b u ih =>
    have hstep : ∀ digits : Text,
        valueOf (digits ++ [u]) = valueOf digits * 10 + (digitValue u).getD 0 := by
      intro digits
      rw [valueOf, List.foldl_append, List.foldl_cons, List.foldl_nil]
      rfl
    rw [← List.append_assoc, hstep, hstep, ih, List.length_append, List.length_singleton, pow_succ]
    ring

/-- The digits of a number stand for the number. -/
theorem valueOf_ofNat (n : ℕ) : valueOf (Text.ofNat n) = n := by
  induction n using Nat.strongRecOn with
  | _ n ih =>
    rcases Nat.lt_or_ge n 10 with hlt | hge
    · rw [Text.ofNat_of_lt hlt, ← List.nil_append [digit n], valueOf_concat _ hlt]
      simp [valueOf]
    · rw [Text.ofNat_of_ge hge, valueOf_concat _ (Nat.mod_lt n (by decide)),
        ih _ (Nat.div_lt_self (by omega) (by decide))]
      omega

/-- The text of a number holds digits only. -/
lemma isSome_digitValue_of_mem_ofNat {n : ℕ} : ∀ u ∈ Text.ofNat n, (digitValue u).isSome := by
  induction n using Nat.strongRecOn with
  | _ n ih =>
    intro u hu
    rcases Nat.lt_or_ge n 10 with hlt | hge
    · rw [Text.ofNat_of_lt hlt, List.mem_singleton] at hu
      rw [hu, digitValue_digit hlt]
      rfl
    · rw [Text.ofNat_of_ge hge, List.mem_append, List.mem_singleton] at hu
      rcases hu with hu | rfl
      · exact ih _ (Nat.div_lt_self (by omega) (by decide)) u hu
      · rw [digitValue_digit (Nat.mod_lt n (by decide))]
        rfl

/-- Digits that do not start with a zero stand for a positive number, and are its text. -/
lemma ofNat_valueOf {digits : Text} (hne : digits ≠ [])
    (hdigits : ∀ u ∈ digits, (digitValue u).isSome) (hhead : digits.head? ≠ some (Text.unit '0')) :
    0 < valueOf digits ∧ Text.ofNat (valueOf digits) = digits := by
  induction digits using List.reverseRecOn with
  | nil => exact absurd rfl hne
  | append_singleton digits u ih =>
    obtain ⟨d, hd⟩ := Option.isSome_iff_exists.mp
      (hdigits u (List.mem_append_right _ List.mem_cons_self))
    obtain ⟨hlt, rfl⟩ := digitValue_eq_some hd
    rw [valueOf_concat _ hlt]
    by_cases hempty : digits = []
    · subst hempty
      have hpos : 0 < d := by
        rcases Nat.eq_zero_or_pos d with rfl | hpos
        · exact absurd rfl hhead
        · exact hpos
      have hvalue : valueOf [] * 10 + d = d := by simp [valueOf]
      rw [hvalue, Text.ofNat_of_lt hlt]
      exact ⟨hpos, rfl⟩
    · rw [List.head?_append_of_ne_nil _ hempty] at hhead
      obtain ⟨hpos, hdigits'⟩ := ih hempty
        (fun v hv => hdigits v (List.mem_append_left _ hv)) hhead
      refine ⟨by omega, ?_⟩
      rw [Text.ofNat_of_ge (by omega)]
      have hdiv : (valueOf digits * 10 + d) / 10 = valueOf digits := by omega
      have hmod : (valueOf digits * 10 + d) % 10 = d := by omega
      rw [hdiv, hmod, hdigits']

/-- Digits are read up to what follows them. -/
theorem readDigits_append {digits rest : Text} (hdigits : ∀ u ∈ digits, (digitValue u).isSome)
    (hrest : ∀ u ∈ rest.head?, digitValue u = none) :
    readDigits (digits ++ rest) = (valueOf digits, digits.length, rest) := by
  have hstop : (rest.takeWhile fun u => (digitValue u).isSome) = []
      ∧ (rest.dropWhile fun u => (digitValue u).isSome) = rest := by
    cases rest with
    | nil => exact ⟨rfl, rfl⟩
    | cons u rest =>
      have hno : (digitValue u).isSome = false := by
        rw [hrest u rfl]
        rfl
      rw [List.takeWhile_cons_of_neg (by rw [hno]; exact Bool.false_ne_true),
        List.dropWhile_cons_of_neg (by rw [hno]; exact Bool.false_ne_true)]
      exact ⟨rfl, rfl⟩
  rw [readDigits]
  simp only [List.takeWhile_append_of_pos hdigits, List.dropWhile_append_of_pos hdigits, hstop.1,
    hstop.2, List.append_nil]
  rfl

/-! ## Array indexes -/

/-- Units that are read one after the other to a number are the digits of this number. -/
lemma valueOf_of_foldl_eq_some {digits : Text} {n : ℕ}
    (h : digits.foldl (fun (acc : Option ℕ) u =>
      acc.bind fun n => (digitValue u).map fun d => n * 10 + d) (some 0) = some n) :
    (∀ u ∈ digits, (digitValue u).isSome) ∧ valueOf digits = n := by
  induction digits using List.reverseRecOn generalizing n with
  | nil => exact ⟨fun u hu => absurd hu List.not_mem_nil, Option.some.inj h⟩
  | append_singleton digits u ih =>
    rw [List.foldl_append, List.foldl_cons, List.foldl_nil, Option.bind_eq_some_iff] at h
    obtain ⟨m, hm, hlast⟩ := h
    obtain ⟨d, hd, rfl⟩ := Option.map_eq_some_iff.mp hlast
    obtain ⟨hdigits, rfl⟩ := ih hm
    obtain ⟨hlt, rfl⟩ := digitValue_eq_some hd
    refine ⟨?_, valueOf_concat _ hlt⟩
    intro v hv
    rcases List.mem_append.mp hv with hv | hv
    · exact hdigits v hv
    · rw [List.mem_singleton.mp hv, hd]
      rfl

/-- A name that is written like an array index is the text of the index. -/
theorem eq_ofNat_of_arrayIndex? {name : Text} {i : ℕ} (h : arrayIndex? name = some i) :
    name = Text.ofNat i := by
  match name, h with
  | [u], h =>
    obtain ⟨hlt, rfl⟩ := digitValue_eq_some h
    exact (Text.ofNat_of_lt hlt).symm
  | u :: v :: rest, h =>
    rw [arrayIndex?] at h
    · split at h
      · cases h
      · next hno =>
        rw [Bool.or_eq_true, not_or, beq_iff_eq] at hno
        obtain ⟨hread, -⟩ := Option.filter_eq_some_iff.mp h
        obtain ⟨hdigits, rfl⟩ := valueOf_of_foldl_eq_some hread
        have hhead : (u :: v :: rest).head? ≠ some (Text.unit '0') := by
          rw [List.head?_cons]
          exact fun heq => hno.1 (Option.some.inj heq)
        exact (ofNat_valueOf (List.cons_ne_nil _ _) hdigits hhead).2.symm
    · simp

end Json

end CallAtlas
