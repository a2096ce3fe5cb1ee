import CallAtlas.Json.Basic

/-!
# Reading JSON

The reader takes exactly the texts of the JSON grammar: a value with blanks around it, and
nothing else. It answers with the value, or with nothing for any other text.
-/

namespace CallAtlas.Json

/-- Skips blanks. -/
def skipBlanks : Text → Text :=
  List.dropWhile fun u => u == 0x20 || u == 0x09 || u == 0x0A || u == 0x0D

/-- The value of a hexadecimal digit. -/
def hexValue (u : CodeUnit) : Option Nat :=
  let n := u.toNat
  if 48 ≤ n && n ≤ 57 then some (n - 48)
  else if 65 ≤ n && n ≤ 70 then some (n - 55)
  else if 97 ≤ n && n ≤ 102 then some (n - 87)
  else none

/-- The unit that the letter of a short escape stands for. -/
def unescape? (u : CodeUnit) : Option CodeUnit :=
  let n := u.toNat
  if n == 0x22 || n == 0x5C || n == 0x2F then some u
  else if n == 0x62 then some 0x08
  else if n == 0x66 then some 0x0C
  else if n == 0x6E then some 0x0A
  else if n == 0x72 then some 0x0D
  else if n == 0x74 then some 0x09
  else none

/-- Reads the rest of a string, after the opening quote. -/
def readString : Text → Text → Option (Text × Text)
  | acc, u :: rest =>
    if u == 0x22 then some (acc.reverse, rest)
    else if u < 0x20 then none
    else if u == 0x5C then
      match rest with
      | e :: rest' =>
        if e == 0x75 then
          match rest' with
          | a :: b :: c :: d :: rest'' =>
            match hexValue a, hexValue b, hexValue c, hexValue d with
            | some a, some b, some c, some d =>
              readString ((a * 4096 + b * 256 + c * 16 + d).toUInt16 :: acc) rest''
            | _, _, _, _ => none
          | _ => none
        else
          match unescape? e with
          | some v => readString (v :: acc) rest'
          | none => none
      | [] => none
    else readString (u :: acc) rest
  | _, [] => none

/-- Reads decimal digits: their value, their number, and the rest. -/
def readDigits (t : Text) : Nat × Nat × Text :=
  let isDigit (u : CodeUnit) : Bool := (digitValue u).isSome
  let digits := t.takeWhile isDigit
  (digits.foldl (fun n u => n * 10 + (digitValue u).getD 0) 0, digits.length,
    t.dropWhile isDigit)

/-- Reads a sign, true for a minus. -/
def readSign (t : Text) : Bool × Text :=
  match t with
  | u :: rest =>
    if u == Text.unit '-' then (true, rest)
    else if u == Text.unit '+' then (false, rest)
    else (false, t)
  | [] => (false, t)

/-- Reads a number. -/
def readNumber (t : Text) : Option (Json × Text) :=
  let (negative, t) :=
    match t with
    | u :: rest => if u == Text.unit '-' then (true, rest) else (false, t)
    | [] => (false, t)
  let (whole, wholeCount, rest) := readDigits t
  -- No zero stands in front of other digits.
  if wholeCount == 0 || (1 < wholeCount && t.head? == some (Text.unit '0')) then none
  else
    let fraction : Option (Nat × Nat × Text) :=
      match rest with
      | u :: after =>
        if u == Text.unit '.' then
          let (value, count, after) := readDigits after
          if count == 0 then none else some (value, count, after)
        else some (0, 0, rest)
      | [] => some (0, 0, rest)
    match fraction with
    | none => none
    | some (value, count, rest) =>
      let exponent : Option (Int × Text) :=
        match rest with
        | u :: after =>
          if u == Text.unit 'e' || u == Text.unit 'E' then
            let (negative, after) := readSign after
            let (value, count, after) := readDigits after
            if count == 0 then none
            else some (if negative then -(value : Int) else (value : Int), after)
          else some (0, rest)
        | [] => some (0, rest)
      match exponent with
      | none => none
      | some (e, rest) =>
        match Number.ofLiteral negative (whole * Nat.pow 10 count + value) (e - count) with
        | some n => some (.num n, rest)
        | none => some (.infinite negative, rest)

/-- Takes a word off the beginning of a text. -/
def readWord (word : String) (value : Json) (t : Text) : Option (Json × Text) :=
  let w := Text.ofString word
  if w.isPrefixOf t then some (value, t.drop w.length) else none

mutual

/-- Reads a value. -/
def readValue : (fuel : Nat) → Text → Option (Json × Text)
  | 0, _ => none
  | fuel + 1, t =>
    match skipBlanks t with
    | [] => none
    | u :: rest =>
      if u == 0x22 then (readString [] rest).map fun (s, rest) => (.str s, rest)
      else if u == Text.unit '[' then
        match skipBlanks rest with
        | [] => none
        | v :: after =>
          if v == Text.unit ']' then some (.arr [], after)
          else (readElements fuel rest []).map fun (es, rest) => (.arr es, rest)
      else if u == Text.unit '\x7b' then
        match skipBlanks rest with
        | [] => none
        | v :: after =>
          if v == Text.unit '\x7d' then some (.obj [], after)
          else (readMembers fuel rest []).map fun (ms, rest) => (ofMembers ms, rest)
      else if u == Text.unit 't' then readWord "true" (.bool true) (u :: rest)
      else if u == Text.unit 'f' then readWord "false" (.bool false) (u :: rest)
      else if u == Text.unit 'n' then readWord "null" .null (u :: rest)
      else readNumber (u :: rest)

/-- Reads the elements of an array, up to and with the closing bracket. -/
def readElements : (fuel : Nat) → Text → List Json → Option (List Json × Text)
  | 0, _, _ => none
  | fuel + 1, t, acc =>
    match readValue fuel t with
    | none => none
    | some (e, rest) =>
      match skipBlanks rest with
      | [] => none
      | u :: after =>
        if u == Text.unit ',' then readElements fuel after (e :: acc)
        else if u == Text.unit ']' then some ((e :: acc).reverse, after)
        else none

/-- Reads the members of an object, up to and with the closing brace. -/
def readMembers : (fuel : Nat) → Text → List (Text × Json) →
    Option (List (Text × Json) × Text)
  | 0, _, _ => none
  | fuel + 1, t, acc =>
    match skipBlanks t with
    | [] => none
    | u :: rest =>
      if u != 0x22 then none
      else
        match readString [] rest with
        | none => none
        | some (name, rest) =>
          match skipBlanks rest with
          | [] => none
          | v :: rest =>
            if v != Text.unit ':' then none
            else
              match readValue fuel rest with
              | none => none
              | some (value, rest) =>
                match skipBlanks rest with
                | [] => none
                | w :: after =>
                  if w == Text.unit ',' then readMembers fuel after ((name, value) :: acc)
                  else if w == Text.unit '\x7d' then
                    some (((name, value) :: acc).reverse, after)
                  else none

end

/-- The value of a text. -/
def parse? (t : Text) : Option Json :=
  match readValue (t.length + 2) t with
  | none => none
  | some (j, rest) => if (skipBlanks rest).isEmpty then some j else none

end CallAtlas.Json
