import CallAtlas.Text.Basic

/-!
# Environment variables

The environment holds entries, each a name with an equals sign and a value behind it. Names and
values end before the first unit that is zero, and a name is neither empty nor holds an equals sign
when it is set. A name that is looked up is the text before the first equals sign of its entry or
any longer text before an equals sign. What every table of names inherits is found under names
that are not set.
-/

namespace CallAtlas

/-- The environment variables. -/
structure Environment where
  /-- The entries, the first one first. -/
  entries : List Text := []
deriving DecidableEq, Inhabited

namespace Environment

/-- A text as the environment holds it. -/
def held (t : Text) : Text :=
  Text.ofString (Text.toString (t.takeWhile fun u => u ≠ 0))

/-- A name as the beginning of its entry. -/
def opening (name : Text) : Text := held name ++ [Text.unit '=']

/-- Sets a variable. A name that is empty or holds an equals sign changes nothing. -/
def set (e : Environment) (name value : Text) : Environment :=
  let name := held name
  if name.isEmpty || name.any (· == Text.unit '=') then e
  else
    let entry := opening name ++ held value
    if e.entries.any fun x => (opening name).isPrefixOf x then
      ⟨e.entries.map fun x => if (opening name).isPrefixOf x then entry else x⟩
    else ⟨e.entries ++ [entry]⟩

/-- The environment with the variables of a list. -/
def ofList (values : List (Text × Text)) : Environment :=
  values.foldl (fun e v => e.set v.1 v.2) {}

/-- The functions that every table of names inherits. -/
def inheritedFunctions : List String :=
  ["__defineGetter__", "__defineSetter__", "hasOwnProperty", "__lookupGetter__",
    "__lookupSetter__", "isPrototypeOf", "propertyIsEnumerable", "toString", "valueOf",
    "toLocaleString"]

/-- What every table of names inherits under a name. -/
def inherited? (name : Text) : Option Text :=
  let code (name : String) : Text := Text.ofString ("function " ++ name ++ "() \x7b [native code] \x7d")
  if name = Text.ofString "constructor" then some (code "")
  else if name = Text.ofString "__proto__" then some (Text.ofString "[object Object]")
  else (inheritedFunctions.find? fun f => Text.ofString f == name).map code

/-- The value of a variable that is set. -/
def set? (e : Environment) (name : Text) : Option Text :=
  if (held name).isEmpty then none
  else
    (e.entries.find? fun x => (opening name).isPrefixOf x).map fun x => x.drop (opening name).length

/-- The value under a name. -/
def value? (e : Environment) (name : Text) : Option Text := (e.set? name).or (inherited? name)

end Environment

end CallAtlas
