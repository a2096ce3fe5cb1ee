import CallAtlas.Regex.Reader
import CallAtlas.Syntax.Query.Cursor

/-!
# Conditions of queries

A condition stands in parentheses, begins with `#` and has captures, names and strings as its
arguments. The operator says how many there have to be and of what sort: a comparison takes a
capture and another argument, a match takes a capture and a regular expression, a property takes
one or two strings, and a membership takes a capture and strings. There are no other operators.
-/

namespace CallAtlas.Syntax

namespace Query

/-- An argument of a condition. -/
inductive ConditionArgument where
  | capture (name : List Nat)
  | word (value : List Nat)

namespace ConditionArgument

/-- The name or the value. -/
def content : ConditionArgument → Text
  | capture name => textOf name
  | word value => textOf value

/-- Is it a capture? -/
def isCapture : ConditionArgument → Bool
  | capture _ => true
  | word _ => false

end ConditionArgument

/-- The arguments of a condition, up to the closing parenthesis. -/
def arguments : (fuel : Nat) → Cursor → Read (List ConditionArgument × Cursor)
  | 0, c => c.stop
  | fuel + 1, c =>
    if c.next = code ')' then .ok ([], c.advance.skip)
    else if c.next = code '@' then
      let c := c.advance
      if beginsName c.next then
        let (name, after) := c.name
        if c.captures.contains name then do
          let (more, c) ← arguments fuel after.skip
          return (.capture name :: more, c)
        else c.stop .unknownCapture
      else c.stop
    else if c.next = code '"' then do
      let (value, c) ← c.string
      let (more, c) ← arguments fuel c.skip
      return (.word value :: more, c)
    else if beginsName c.next then do
      let (value, c) := c.name
      let (more, c) ← arguments fuel c.skip
      return (.word value :: more, c)
    else c.stop

/-- What is wrong with the number of arguments. -/
def countFault (shown expected : String) (count : Nat) (stop : String) : Text :=
  Text.ofString ("Wrong number of arguments to \x60#" ++ shown ++ "\x60 predicate. Expected "
    ++ expected ++ " got " ++ Nat.repr count ++ stop)

/-- What is wrong with a first argument that is not a capture but a word that is shown as `got`. -/
def notCapture (shown : String) (got : Text) (stop : String) : Text :=
  Text.ofString ("First argument of \x60#" ++ shown ++ "\x60 predicate must be a capture. Got \"")
    ++ got ++ Text.ofString ("\"" ++ stop)

/-- What is wrong with a first argument that is not a capture. -/
def captureFault (shown : String) (first : Option ConditionArgument) (stop : String) :
    Option Text :=
  first.bind fun a => if a.isCapture then none else some (notCapture shown a.content stop)

/-- What is wrong with the arguments of a condition that compares a capture. -/
def equalityFault (as : List ConditionArgument) : Option Text :=
  if as.length ≠ 2 then some (countFault "eq?" "2," as.length "")
  else captureFault "eq?" as.head? ""

/-- What is wrong with the regular expression of a condition. -/
def expressionFault (expression : Text) : Option Text :=
  match Regex.ofText expression with
  | .ok _ => none
  | .error fault =>
    some (Text.ofString "Invalid regular expression: /" ++ expression
      ++ Text.ofString ("/: " ++ fault.message))

/-- What is wrong with the arguments of a condition that matches a capture. -/
def matchFault (as : List ConditionArgument) : Option Text :=
  if as.length ≠ 2 then some (countFault "match?" "2," as.length ".")
  else
    (captureFault "match?" as.head? ".").or
      (as.getLast?.bind fun a =>
        if a.isCapture then
          some (Text.ofString "Second argument of \x60#match?\x60 predicate must be a string. Got @"
            ++ a.content ++ [Text.dot])
        else expressionFault a.content)

/-- What is wrong with the arguments of a condition that sets or asks for a property. -/
def propertyFault (shown : String) (as : List ConditionArgument) : Option Text :=
  if as.length < 1 || 2 < as.length then
    some (Text.ofString ("Wrong number of arguments to \x60#" ++ shown
      ++ "\x60 predicate. Expected 1 or 2. Got " ++ Nat.repr as.length ++ "."))
  else if as.any ConditionArgument.isCapture then
    some (Text.ofString ("Arguments to \x60#" ++ shown ++ "\x60 predicate must be a strings.\"."))
  else none

/-- What is wrong with the arguments of a condition that looks a capture up in a list. -/
def memberFault (shown : String) (as : List ConditionArgument) : Option Text :=
  if as.isEmpty then
    some (Text.ofString ("Wrong number of arguments to \x60#" ++ shown
      ++ "\x60 predicate. Expected at least 1. Got 0."))
  else if !as.head?.all ConditionArgument.isCapture then
    -- the message does not show the word
    some (notCapture shown (Text.ofString "undefined") ".")
  else if (as.drop 1).any ConditionArgument.isCapture then
    some (Text.ofString ("Arguments to \x60#" ++ shown ++ "\x60 predicate must be a strings.\"."))
  else none

/-- What is wrong with the arguments of a condition. -/
def conditionFault (operator : String) (as : List ConditionArgument) : Option Text :=
  if ["eq?", "not-eq?", "any-eq?", "any-not-eq?"].contains operator then equalityFault as
  else if ["match?", "not-match?", "any-match?", "any-not-match?"].contains operator then
    matchFault as
  else if operator == "set!" || operator == "is?" || operator == "is-not?" then
    propertyFault operator as
  else if operator == "any-of?" || operator == "not-any-of?" then memberFault operator as
  else some (Text.ofString ("Unknown query predicate \x60#" ++ operator ++ "\x60"))

/-- Reads a condition behind its opening. A fault in its arguments is only noted. -/
def condition (position : Nat) (c : Cursor) : Read (QueryTerm × Cursor) :=
  if beginsName c.next then do
    let (operator, after) := c.name
    let (as, c) ← arguments (after.rest.length + 1) after.skip
    let misuse := c.misuse.or (conditionFault (stringOf operator) as)
    return (.condition position, { c with misuse })
  else c.stop

end Query

end CallAtlas.Syntax
