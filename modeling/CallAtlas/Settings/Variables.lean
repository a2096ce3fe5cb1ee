import CallAtlas.Failure

/-!
# Environment variables in documents

The strings of a document may refer to environment variables by placeholders. A placeholder is a
dollar sign with a name in braces after it; it is replaced by the value of the variable, and
what is put in is not looked at again. A document with a placeholder for a variable that is not
set is refused.
-/

namespace CallAtlas.Variables

/-- The values of the variables that are set. -/
abbrev Values := Text → Option Text

/-- The name in a placeholder whose dollar sign comes before the text. -/
def placeholder? : Text → Option Text
  | [] => none
  | u :: rest =>
    if u = Text.unit '\x7b' then
      let name := rest.takeWhile fun v => v ≠ Text.unit '\x7d'
      if name = [] || name.length = rest.length then none else some name
    else none

/-- A variable that is not set. -/
structure Unset where
  name : Text
deriving DecidableEq

/-- The message on a variable that is not set. -/
def Unset.message (u : Unset) : Text :=
  Text.ofString "Environment variable \"" ++ u.name ++ Text.ofString "\" is not set"

/-- The text with its placeholders replaced. `skip` units of it belong to a placeholder that was
replaced already. -/
def expandFrom (env : Values) (skip : Nat) : Text → Except Unset Text
  | [] => .ok []
  | u :: rest =>
    match skip with
    | n + 1 => expandFrom env n rest
    | 0 =>
      match if u = Text.unit '$' then placeholder? rest else none with
      | none => (expandFrom env 0 rest).map (u :: ·)
      | some name =>
        match env name with
        | none => .error ⟨name⟩
        | some value => (expandFrom env (name.length + 2) rest).map (value ++ ·)

/-- The text with its placeholders replaced. -/
def expandText (env : Values) (t : Text) : Except Unset Text := expandFrom env 0 t

/-- The name of the member that an object inherits from. -/
def parentName : Text := Text.ofString "__proto__"

/-- The members of an object that inherits from another one: its own, and behind them those of
the other one. -/
def withInherited (own : List (Text × Json)) : List (Text × Json) :=
  own.filter (fun m => m.1 ≠ parentName)
    ++ (own.filter fun m => m.1 = parentName).flatMap fun m => m.2.members

mutual

/-- The document with the placeholders in its strings replaced. -/
def expand (env : Values) : Json → Except Unset Json
  | .str s => (expandText env s).map .str
  | .arr es => (expandElements env es).map .arr
  | .obj ms => (expandMembers env ms).map fun ms => .obj (withInherited ms)
  | j => .ok j

/-- Elements with their placeholders replaced. -/
def expandElements (env : Values) : List Json → Except Unset (List Json)
  | [] => .ok []
  | e :: es =>
    match expand env e with
    | .error u => .error u
    | .ok e => (expandElements env es).map (e :: ·)

/-- Members with the placeholders in their values replaced. -/
def expandMembers (env : Values) : List (Text × Json) → Except Unset (List (Text × Json))
  | [] => .ok []
  | (name, value) :: ms =>
    match expand env value with
    | .error u => .error u
    | .ok value => (expandMembers env ms).map ((name, value) :: ·)

end

end CallAtlas.Variables
