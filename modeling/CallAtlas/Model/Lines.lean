import CallAtlas.Model.Basic

/-!
# Ranges of lines

A range of lines contains another one or lies outside it; where neither is so, the two overlap
partially. Of the ranges that contain a line the innermost one is the shortest, and of equally
short ones the last.
-/

namespace CallAtlas

/-- The lines from a first to a last one. -/
structure LineRange where
  first : Number
  last : Number
deriving DecidableEq, Inhabited

namespace LineRange

/-- Does the range contain the other one? -/
def contains (outer inner : LineRange) : Bool :=
  outer.first ≤ inner.first && inner.last ≤ outer.last

/-- Does the range contain a line? -/
def covers (r : LineRange) (line : Number) : Bool := r.first ≤ line && line ≤ r.last

/-- The difference of the last and the first line. -/
def span (r : LineRange) : Number := r.last.minus r.first

/-- The better of the innermost range so far and the next one, both of which cover the line. -/
def innermostStep {α : Type} (range : α → LineRange) (best : Option α) (next : α) : Option α :=
  match best with
  | none => some next
  | some b => if (range next).span ≤ (range b).span then some next else some b

/-- The shortest of the ranges that cover a line; of equally short ones the last. -/
def innermost? {α : Type} (range : α → LineRange) (items : List α) (line : Number) : Option α :=
  (items.filter fun x => (range x).covers line).foldl (innermostStep range) none

end LineRange

/-- The lines of a declaration. -/
def Declaration.range (d : Declaration) : LineRange := ⟨d.startLine, d.endLine⟩

/-- The lines of a definition. -/
def Definition.range (d : Definition) : LineRange := ⟨d.startLine, d.endLine⟩

end CallAtlas
