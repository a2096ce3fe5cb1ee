import CallAtlas.Failure
import CallAtlas.Json.Printer

/-!
# Arguments of the command line

An argument is an option, the value of one, or an operand. Options have long names behind two
dashes and may have short ones, single units behind one dash; short options may be written
together. A value is written behind a long option and an equals sign, directly behind a short
option, or as the next argument. All that comes after two dashes alone is an operand.
-/

namespace CallAtlas

/-- An option that a program knows. -/
structure OptionSpec where
  /-- The long name. -/
  name : String
  /-- The short name. -/
  short : Option Char := none
  /-- Does the option have a value? -/
  takesValue : Bool := false

/-- A part of the command line. -/
inductive ArgumentToken where
  | operand (value : Text)
  /-- An option by its name, as it was written, and its value, if any; `attached` tells that the
  value is not an argument of its own. -/
  | option (name written : Text) (value : Option Text) (attached : Bool)

/-- The command line, read. -/
structure Arguments where
  operands : List Text := []
  /-- The options by name, each with its last value. -/
  options : List (Text × Option Text) := []

namespace Arguments

/-- The dash before options. -/
abbrev dash : CodeUnit := Text.unit '-'

/-- The option of a name. -/
def spec? (specs : List OptionSpec) (name : Text) : Option OptionSpec :=
  specs.find? fun s => Text.ofString s.name == name

/-- The name of the option with a short name; an unknown one stands for itself. -/
def nameOf (specs : List OptionSpec) (short : CodeUnit) : Text :=
  match specs.find? fun s => s.short.map Text.unit == some short with
  | some s => Text.ofString s.name
  | none => [short]

/-- Does the option of a name have a value? -/
def takesValue (specs : List OptionSpec) (name : Text) : Bool :=
  ((spec? specs name).map OptionSpec.takesValue).getD false

/-- Short options that are written together, taken apart. One that takes a value takes the rest. -/
def splitGroup (specs : List OptionSpec) : Text → List Text
  | [] => []
  | u :: rest =>
    if takesValue specs (nameOf specs u) && !rest.isEmpty then [dash :: u :: rest]
    else [dash, u] :: splitGroup specs rest

/-- What an argument is. -/
inductive Shape where
  | terminator
  | short (u : CodeUnit)
  /-- Several short options that are written together. -/
  | group (units : Text)
  | shortWithValue (u : CodeUnit) (value : Text)
  | long (name : Text)
  | longWithValue (name value : Text)
  | operand

/-- What a long option with two dashes before it is. It has a value if there is an equals sign behind
its first unit; the name ends at the first equals sign of all. -/
def longShape (body : Text) : Shape :=
  if (body.drop 1).contains (Text.unit '=') then
    let name := body.takeWhile fun u => u ≠ Text.unit '='
    .longWithValue name (body.drop (name.length + 1))
  else .long body

/-- What an argument is. -/
def shapeOf (specs : List OptionSpec) (argument : Text) : Shape :=
  match argument with
  | a :: b :: rest =>
    if a ≠ dash then .operand
    else if b = dash then if rest.isEmpty then .terminator else longShape rest
    else if rest.isEmpty then .short b
    else if takesValue specs (nameOf specs b) then .shortWithValue b rest
    else .group (b :: rest)
  | _ => .operand

/-- An option whose value, if it has one, is the next argument. -/
def withNext (specs : List OptionSpec) (name written : Text) (rest : List Text) :
    ArgumentToken × List Text :=
  match rest with
  | value :: after =>
    if takesValue specs name then (.option name written (some value) false, after)
    else (.option name written none false, rest)
  | [] => (.option name written none false, [])

/-- The parts of the command line. -/
def tokens (specs : List OptionSpec) (fuel : Nat) : List Text → List ArgumentToken
  | [] => []
  | argument :: rest =>
    match fuel with
    | 0 => []
    | n + 1 =>
      match shapeOf specs argument with
      | .terminator => rest.map .operand
      | .short u =>
        let (token, rest) := withNext specs (nameOf specs u) argument rest
        token :: tokens specs n rest
      | .group units => tokens specs n (splitGroup specs units ++ rest)
      | .shortWithValue u value =>
        .option (nameOf specs u) [dash, u] (some value) true :: tokens specs n rest
      | .long name =>
        let (token, rest) := withNext specs name argument rest
        token :: tokens specs n rest
      | .longWithValue name value =>
        .option name (dash :: dash :: name) (some value) true :: tokens specs n rest
      | .operand => .operand argument :: tokens specs n rest

/-- An error in the use of an option. -/
def misuse (code : String) (message : Text) : Failure :=
  { kind := .type, message, code := some (code : Json) }

/-- The error of an option that is not known. -/
def unknownOption (written : Text) : Failure :=
  misuse "ERR_PARSE_ARGS_UNKNOWN_OPTION"
    (Text.ofString "Unknown option '" ++ written
      ++ Text.ofString ("'. To specify a positional argument starting with a '-', place it at "
        ++ "the end of the command after '--', as in '-- ") ++ Json.quote false written)

/-- The error of a value that is missing or out of place. -/
def invalidValue (message : Text) : Failure :=
  misuse "ERR_PARSE_ARGS_INVALID_OPTION_VALUE" message

/-- An option with its short and its long name. -/
def title (s : OptionSpec) : String :=
  (match s.short with
    | some c => String.ofList ['-', c, ',', ' ']
    | none => "") ++ "--" ++ s.name

/-- The error of a value that looks like an option. -/
def ambiguous (name written : Text) : Failure :=
  let sample :=
    if [dash, dash].isPrefixOf written then
      [Text.unit '\''] ++ written ++ Text.ofString "=-XYZ'"
    else
      Text.ofString "'--" ++ name ++ Text.ofString "=-XYZ' or '" ++ written
        ++ Text.ofString "-XYZ'"
  invalidValue
    (Text.ofString "Option '" ++ written
      ++ Text.ofString ("' argument is ambiguous.\n"
        ++ "Did you forget to specify the option argument for '") ++ written
      ++ Text.ofString "'?\nTo specify an option argument starting with a dash use " ++ sample
      ++ [Text.dot])

/-- Does a value look like an option? -/
def looksLikeOption (value : Text) : Bool := 1 < value.length && value.head? == some dash

/-- What is wrong with an option, if anything. -/
def fault? (specs : List OptionSpec) (name written : Text) (value : Option Text)
    (attached : Bool) : Option Failure :=
  match spec? specs name with
  | none => some (unknownOption written)
  | some s =>
    match s.takesValue, value with
    | true, none =>
      some (invalidValue (Text.ofString ("Option '" ++ title s ++ " <value>' argument missing")))
    | false, some _ =>
      some (invalidValue (Text.ofString ("Option '" ++ title s ++ "' does not take an argument")))
    | true, some v => if !attached && looksLikeOption v then some (ambiguous name written) else none
    | false, none => none

/-- Puts an option in the place of an earlier one of its name. -/
def store (name : Text) (value : Option Text) (options : List (Text × Option Text)) :
    List (Text × Option Text) :=
  options.filter (fun o => o.1 ≠ name) ++ [(name, value)]

/-- Takes the parts of the command line one after the other. -/
def collect (specs : List OptionSpec) (a : Arguments) :
    List ArgumentToken → Except Failure Arguments
  | [] => .ok a
  | .operand value :: ts => collect specs { a with operands := a.operands ++ [value] } ts
  | .option name written value attached :: ts =>
    match fault? specs name written value attached with
    | some f => .error f
    | none => collect specs { a with options := store name value a.options } ts

/-- Reads a command line. -/
def read (specs : List OptionSpec) (arguments : List Text) : Except Failure Arguments :=
  let fuel := arguments.foldr (fun a n => a.length + 1 + n) 0
  collect specs {} (tokens specs fuel arguments)

/-- Is an option there? -/
def has (a : Arguments) (name : String) : Bool :=
  (a.options.lookup (Text.ofString name)).isSome

/-- The value of an option. -/
def value? (a : Arguments) (name : String) : Option Text :=
  (a.options.lookup (Text.ofString name)).bind id

end Arguments

end CallAtlas
