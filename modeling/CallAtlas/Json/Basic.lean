import CallAtlas.Number.Decimal

/-!
# JSON values

The members of an object keep an order: names that are array indexes come first, by value, and
all others in the order in which they were first written. A name that is written again gives its
first place the later value.
-/

namespace CallAtlas

/-- A JSON value. -/
inductive Json where
  | null
  | bool (b : Bool)
  | num (n : Number)
  /-- A number too large to be represented; it is written as null. -/
  | infinite (negative : Bool)
  | str (s : Text)
  | arr (elements : List Json)
  | obj (members : List (Text × Json))
deriving BEq, Inhabited

namespace Json

instance : Coe String Json := ⟨fun s => .str (Text.ofString s)⟩
instance : Coe Text Json := ⟨.str⟩
instance : Coe Bool Json := ⟨.bool⟩

/-- A natural number as a JSON value. -/
def ofNat (n : Nat) : Json := .num (n : Int)

/-- The value of a decimal digit. -/
def digitValue (u : CodeUnit) : Option Nat :=
  if Text.unit '0' ≤ u && u ≤ Text.unit '9' then some (u - Text.unit '0').toNat else none

/-- The value of a name that is written like an array index: digits without leading zeros, below
`2 ^ 32 - 1`. -/
def arrayIndex? (name : Text) : Option Nat :=
  match name with
  | [] => none
  | [u] => digitValue u
  | u :: _ =>
    if u == Text.unit '0' || 10 < name.length then none
    else
      (name.foldl (fun (acc : Option Nat) u =>
        acc.bind fun n => (digitValue u).map fun d => n * 10 + d) (some 0)).filter
          fun n => n < 4294967295

/-- Puts a member in its place among members that are in order. -/
def insertMember {α : Type} (name : Text) (value : α) (members : List (Text × α)) :
    List (Text × α) :=
  if members.any fun m => m.1 == name then
    members.map fun m => if m.1 == name then (name, value) else m
  else
    match arrayIndex? name with
    | none => members ++ [(name, value)]
    | some i =>
      let isBelow (m : Text × α) : Bool :=
        match arrayIndex? m.1 with
        | some j => j < i
        | none => false
      members.takeWhile isBelow ++ (name, value) :: members.dropWhile isBelow

/-- Members in order. -/
def orderMembers {α : Type} (members : List (Text × α)) : List (Text × α) :=
  members.foldl (fun acc m => insertMember m.1 m.2 acc) []

/-- An object from members as they are written. -/
def ofMembers (members : List (Text × Json)) : Json := .obj (orderMembers members)

/-- An object from members whose names are distinct and no array indexes. -/
def object (members : List (String × Json)) : Json :=
  .obj (members.map fun m => (Text.ofString m.1, m.2))

/-- A member that is left out if it has no value. -/
def optional {α : Type} (name : String) (toJson : α → Json) (value : Option α) :
    List (String × Json) :=
  match value with
  | some v => [(name, toJson v)]
  | none => []

/-- A value that may be missing, with null in its place. -/
def orNull {α : Type} (toJson : α → Json) : Option α → Json
  | some a => toJson a
  | none => .null

/-- The value of a member of an object. -/
def get? (j : Json) (name : String) : Option Json :=
  match j with
  | .obj members => members.lookup (Text.ofString name)
  | _ => none

/-- The members of an object; none for other values. -/
def members : Json → List (Text × Json)
  | .obj ms => ms
  | _ => []

/-- The elements of an array; none for other values. -/
def elements : Json → List Json
  | .arr es => es
  | _ => []

/-- The text of a string. -/
def str? : Json → Option Text
  | .str s => some s
  | _ => none

/-- The value of a number. -/
def num? : Json → Option Number
  | .num n => some n
  | _ => none

/-- The value of a truth value. -/
def bool? : Json → Option Bool
  | .bool b => some b
  | _ => none

end Json

end CallAtlas
