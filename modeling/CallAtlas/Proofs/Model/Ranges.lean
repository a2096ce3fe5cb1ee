import CallAtlas.Index.File
import Mathlib.Algebra.Order.Ring.Unbundled.Rat
import Mathlib.Tactic.Common

/-!
# Ranges that nest or lie apart

Two ranges of lines fit together if they share no line or one contains the other. Ranges in the
order of a file stand by their first lines, outer ones before inner ones.
-/

namespace CallAtlas

/-- A whole number that is not negative is a natural number. -/
lemma Number.exists_eq_natCast {n : Number} (hinteger : n.isInteger = true) (hnonneg : 0 ≤ n) :
    ∃ k : ℕ, n = k := by
  have hnum : (n.num : Rat) = n := (Rat.den_eq_one_iff n).mp (beq_iff_eq.mp hinteger)
  obtain ⟨k, hk⟩ := Int.eq_ofNat_of_zero_le (Rat.num_nonneg.mpr hnonneg)
  refine ⟨k, ?_⟩
  rw [← hnum, hk]
  rfl

namespace LineRange

/-- The inner range lies inside the outer one. -/
def Contains (outer inner : LineRange) : Prop :=
  outer.first ≤ inner.first ∧ inner.last ≤ outer.last

/-- No line is in both ranges. -/
def Apart (a b : LineRange) : Prop := a.last < b.first ∨ b.last < a.first

/-- The ranges lie apart, or one of them contains the other. -/
def Fits (a b : LineRange) : Prop := a.Apart b ∨ a.Contains b ∨ b.Contains a

/-- The first range begins before the second one, or on the same line and ends no earlier. -/
def Precedes (a b : LineRange) : Prop := a.first < b.first ∨ a.first = b.first ∧ b.last ≤ a.last

lemma contains_iff {outer inner : LineRange} :
    outer.contains inner = true ↔ outer.Contains inner := by
  rw [contains, Bool.and_eq_true, decide_eq_true_eq, decide_eq_true_eq, Contains]

lemma Contains.trans {a b c : LineRange} (hab : a.Contains b) (hbc : b.Contains c) :
    a.Contains c :=
  ⟨hab.1.trans hbc.1, hbc.2.trans hab.2⟩

lemma Precedes.first_le {a b : LineRange} (h : a.Precedes b) : a.first ≤ b.first := by
  rcases h with h | h
  · exact h.le
  · exact h.1.le

lemma Precedes.trans {a b c : LineRange} (hab : a.Precedes b) (hbc : b.Precedes c) :
    a.Precedes c := by
  rcases hab with hab | ⟨hab, hab'⟩
  · exact .inl (hab.trans_le hbc.first_le)
  · rcases hbc with hbc | ⟨hbc, hbc'⟩
    · exact .inl (hab ▸ hbc)
    · exact .inr ⟨hab.trans hbc, hbc'.trans hab'⟩

lemma precedes_total (a b : LineRange) : a.Precedes b ∨ b.Precedes a := by
  rcases lt_trichotomy a.first b.first with h | h | h
  · exact .inl (.inl h)
  · rcases le_total b.last a.last with hl | hl
    · exact .inl (.inr ⟨h, hl⟩)
    · exact .inr (.inr ⟨h.symm, hl⟩)
  · exact .inr (.inl h)

/-- A range that contains another one precedes it. -/
lemma Contains.precedes {outer inner : LineRange} (h : outer.Contains inner) :
    outer.Precedes inner := by
  rcases h.1.lt_or_eq with hlt | heq
  · exact .inl hlt
  · exact .inr ⟨heq, h.2⟩

/-- Ranges that share a line fit together only if the first one contains the other. -/
lemma Fits.contains_of_precedes {a b : LineRange} (h : a.Fits b) (hab : a.Precedes b)
    (ha : ¬a.last < b.first) (hb : b.first ≤ b.last) : a.Contains b := by
  rcases h with (hapart | hapart) | hcontains | hcontains
  · exact absurd hapart ha
  · exact absurd (hb.trans_lt hapart) (not_lt.mpr hab.first_le)
  · exact hcontains
  · rcases hab with hlt | ⟨heq, hle⟩
    · exact absurd hcontains.1 (not_le.mpr hlt)
    · exact ⟨heq.le, hle⟩

lemma Fits.symm {a b : LineRange} (h : a.Fits b) : b.Fits a := by
  rcases h with hapart | hcontains | hcontains
  · exact .inl hapart.symm
  · exact .inr (.inr hcontains)
  · exact .inr (.inl hcontains)

/-- Do the ranges partially overlap: share a line although neither contains the other? -/
def overlaps (a b : LineRange) : Bool :=
  a.first ≤ b.last && b.first ≤ a.last && !a.contains b && !b.contains a

lemma overlaps_iff {a b : LineRange} : a.overlaps b = true ↔ ¬a.Fits b := by
  simp only [overlaps, Fits, Apart, Bool.and_eq_true, decide_eq_true_eq, Bool.not_eq_true',
    ← Bool.not_eq_true, contains_iff, not_or, not_lt]
  tauto

/-- Two ranges share a line if neither of them ends before the other begins. -/
lemma exists_covers_iff {a b : LineRange} (ha : a.first ≤ a.last) (hb : b.first ≤ b.last) :
    (∃ line, a.covers line = true ∧ b.covers line = true)
      ↔ a.first ≤ b.last ∧ b.first ≤ a.last := by
  simp only [covers, Bool.and_eq_true, decide_eq_true_eq]
  constructor
  · rintro ⟨line, ⟨hfirst, hlast⟩, hfirst', hlast'⟩
    exact ⟨hfirst.trans hlast', hfirst'.trans hlast⟩
  · rintro ⟨hab, hba⟩
    exact ⟨max a.first b.first, ⟨le_max_left _ _, max_le ha hba⟩, le_max_right _ _, max_le hab hb⟩

/-- A range among the lines of a file: it is not empty, and it lies in the file. -/
def Within (lineCount : Number) (r : LineRange) : Prop :=
  1 ≤ r.first ∧ r.first ≤ r.last ∧ r.last ≤ max 1 lineCount

end LineRange

namespace Index

/-- A text has no more lines than units. -/
lemma countLines_le (content : Text) : countLines content ≤ content.length := by
  unfold countLines
  split
  · exact Nat.zero_le _
  · next hne =>
    simp only
    split
    · exact List.count_le_length
    · next hlast =>
      -- The last unit is no line feed, so that there are fewer line feeds than units.
      have hcount : content.count Text.newline ≠ content.length := by
        intro heq
        have hall := List.count_eq_length.mp heq
        apply hlast
        rw [List.getLast?_eq_some_getLast hne, hall _ (List.getLast_mem hne)]
      have hle := List.count_le_length (a := Text.newline) (l := content)
      omega

end Index

namespace Assembly

lemma lastLine_eq_max (lineCount : Number) : lastLine lineCount = max 1 lineCount := by
  rw [lastLine, Number.atLeast]
  split
  · rename_i h
    exact (max_eq_left h.le).symm
  · rename_i h
    exact (max_eq_right (not_lt.mp h)).symm

/-- A clamped number is between its bounds. -/
lemma clamp_mem {low high : Number} (h : low ≤ high) (n : Number) :
    low ≤ clamp n low high ∧ clamp n low high ≤ high := by
  have hlow : low ≤ Number.atLeast low n := by
    rw [Number.atLeast]
    split
    · exact le_rfl
    · rename_i hlow
      exact not_lt.mp hlow
  rw [clamp, Number.atMost]
  split
  · exact ⟨h, le_rfl⟩
  · rename_i hhigh
    exact ⟨hlow, not_lt.mp hhigh⟩

/-- A clamped number is a whole one between whole bounds. -/
lemma isInteger_clamp {n low high : Number} (hn : n.isInteger = true) (hlow : low.isInteger = true)
    (hhigh : high.isInteger = true) : (clamp n low high).isInteger = true := by
  rw [clamp, Number.atMost, Number.atLeast]
  split <;> split <;> assumption

lemma isInteger_lastLine {lineCount : Number} (h : lineCount.isInteger = true) :
    (lastLine lineCount).isInteger = true := by
  rw [lastLine, Number.atLeast]
  split
  · rfl
  · exact h

/-- A clamped declaration lies in the file, whatever its lines were. -/
theorem within_clampDeclaration (lineCount : Number) (d : Declaration) :
    (clampDeclaration lineCount d).range.Within lineCount := by
  have hone : (1 : Number) ≤ lastLine lineCount := by
    rw [lastLine_eq_max]
    exact le_max_left 1 lineCount
  obtain ⟨hfirst, hfirst'⟩ := clamp_mem hone d.startLine
  obtain ⟨hlast, hlast'⟩ := clamp_mem hfirst' d.endLine
  refine ⟨hfirst, hlast, ?_⟩
  rw [← lastLine_eq_max]
  exact hlast'

end Assembly

end CallAtlas
