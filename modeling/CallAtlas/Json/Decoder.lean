import CallAtlas.Json.Basic

/-!
# Decoding JSON

A decoder makes a value of some type from a JSON value that may be missing, or says what is wrong
with it. All parts of a value are looked at, so that all issues are reported together, in the
order in which the parts are declared. Members that no part asks for are passed over.
-/

namespace CallAtlas

/-- What is wrong with a part of a JSON value. -/
structure Issue where
  /-- The names and positions that lead to the part. -/
  path : List Text
  message : Text
deriving DecidableEq, Inhabited

namespace Issue

/-- An issue of the value as a whole. -/
def of (message : String) : Issue := ⟨[], Text.ofString message⟩

/-- The path and the message. -/
def line (i : Issue) : Text := Text.join [Text.dot] i.path ++ Text.ofString ": " ++ i.message

end Issue

/-- The decoded value, or all issues. -/
abbrev Verdict (α : Type) := Except (List Issue) α

namespace Verdict

variable {α β : Type}

/-- Puts the verdict on a function and that on its argument together. -/
def app : Verdict (α → β) → Verdict α → Verdict β
  | .ok f, .ok a => .ok (f a)
  | .ok _, .error js => .error js
  | .error is, .ok _ => .error is
  | .error is, .error js => .error (is ++ js)

/-- The verdict on a part of a value, seen from the whole value. -/
def within (name : Text) : Verdict α → Verdict α
  | .ok a => .ok a
  | .error is => .error (is.map fun i => { i with path := name :: i.path })

/-- Puts the verdicts on the elements of a list together. -/
def all : List (Verdict α) → Verdict (List α)
  | [] => .ok []
  | v :: vs => app (app (.ok List.cons) v) (all vs)

/-- An issue with the value as a whole. -/
def refuse (message : String) : Verdict α := .error [.of message]

end Verdict

/-- Makes a value from a JSON value, which may be missing. -/
abbrev Decoder (α : Type) := Option Json → Verdict α

namespace Decoder

variable {α β : Type}

/-- The name of the type of a JSON value. -/
def typeName : Json → String
  | .null => "null"
  | .bool _ => "boolean"
  | .num _ => "number"
  | .infinite _ => "number"
  | .str _ => "string"
  | .arr _ => "array"
  | .obj _ => "object"

/-- The verdict on a value of another type than the expected one. -/
def mismatch (expected : String) : Option Json → Verdict α
  | none => .refuse "Required"
  | some j => .refuse ("Expected " ++ expected ++ ", received " ++ typeName j)

/-- A text with a least length. -/
def text (minLength : Nat) : Decoder Text
  | some (.str s) =>
    if s.length < minLength then
      .refuse ("String must contain at least " ++ Nat.repr minLength ++ " character(s)")
    else .ok s
  | j => mismatch "string" j

/-- A truth value. -/
def boolean : Decoder Bool
  | some (.bool b) => .ok b
  | j => mismatch "boolean" j

/-- The issues of a number. -/
def integerIssues (isWhole isBelow isAbove : Bool) (low : Int) (high : Option Int) : List Issue :=
  (if isWhole then [] else [.of "Expected integer, received float"])
    ++ (if isBelow then [.of ("Number must be greater than or equal to " ++ toString low)] else [])
    ++ match high with
       | some h =>
         if isAbove then [.of ("Number must be less than or equal to " ++ toString h)] else []
       | none => []

/-- Is a number above a bound? -/
def exceeds (n : Number) : Option Int → Bool
  | some h => h < n
  | none => false

/-- A whole number between two bounds, the upper of which may be missing. -/
def integer (low : Int) (high : Option Int) : Decoder Number
  | some (.num n) =>
    match integerIssues (n.den == 1) (n < low) (exceeds n high) low high with
    | [] => .ok n
    | issues => .error issues
  | some (.infinite negative) => .error (integerIssues false negative (!negative) low high)
  | j => mismatch "number" j

/-- The names of choices, as they are listed in a message. -/
def choiceList (choices : List (String × α)) : String :=
  String.intercalate " | " (choices.map fun c => "'" ++ c.1 ++ "'")

/-- One of some names. -/
def choice (choices : List (String × α)) : Decoder α
  | some (.str s) =>
    match choices.find? fun c => Text.ofString c.1 == s with
    | some c => .ok c.2
    | none =>
      .error [⟨[], Text.ofString ("Invalid enum value. Expected " ++ choiceList choices
        ++ ", received '") ++ s ++ [Text.unit '\'']⟩]
  | j => mismatch (choiceList choices) j

/-- A fixed number. -/
def literal (n : Nat) : Decoder Unit
  | some (.num m) => if m = ((n : Nat) : Int) then .ok () else refusal
  | _ => refusal
where
  refusal : Verdict Unit := .refuse ("Invalid literal value, expected " ++ Nat.repr n)

/-- A list of elements. -/
def list (element : Decoder α) : Decoder (List α)
  | some (.arr es) =>
    .all (es.zipIdx.map fun e => (element (some e.1)).within (Text.ofNat e.2))
  | j => mismatch "array" j

/-- Values by name. A member named `__proto__` is looked at, but not kept. -/
def entries (value : Decoder α) : Decoder (List (Text × α))
  | some (.obj ms) =>
    (Verdict.all (ms.map fun m =>
      ((value (some m.2)).within m.1).map fun v => (m.1, v))).map fun es =>
        es.filter fun e => e.1 ≠ Text.ofString "__proto__"
  | j => mismatch "object" j

/-- A value that may be missing. -/
def optional (value : Decoder α) : Decoder (Option α)
  | none => .ok none
  | some j => (value (some j)).map some

/-- A value with another one to take its place where it is missing. -/
def orElse (fallback : Json) (value : Decoder α) : Decoder α
  | none => value (some fallback)
  | some j => value (some j)

/-- The members of an object. -/
abbrev Members := List (Text × Json)

/-- One member of an object. -/
def field (name : String) (value : Decoder α) (ms : Members) : Verdict α :=
  (value (ms.lookup (Text.ofString name))).within (Text.ofString name)

/-- An object whose members are decoded together. -/
def object (members : Members → Verdict α) : Decoder α
  | some (.obj ms) => members ms
  | j => mismatch "object" j

/-- One more member. -/
def andField (f : Members → Verdict (α → β)) (name : String) (value : Decoder α) :
    Members → Verdict β :=
  fun ms => .app (f ms) (field name value ms)

/-- The members of an object, before the first one. -/
def build (f : α) : Members → Verdict α := fun _ => .ok f

end Decoder

end CallAtlas
