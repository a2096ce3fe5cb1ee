import CallAtlas.Workspace.Git.Config

/-!
# Times in words

A time can be told by a date, by numbers and by words such as `yesterday` or `2 weeks ago`. Whatever
says nothing about a time is passed over, and of a text without any word or number for a time none is
told. All that matters of a time here is whether it lies before or after the commits, which are as
good as new: what is not told of a date is that of the present.
-/

namespace CallAtlas

/-- A time as far as it matters. -/
inductive Moment where
  /-- Before all times. -/
  | never
  /-- Before the commits. -/
  | early
  /-- Behind them. -/
  | late
deriving DecidableEq, Repr

namespace Moment

/-- What was read of a time. -/
structure Hint where
  /-- A number whose meaning is open; 0 if there is none. -/
  number : Nat := 0
  day : Option Nat := none
  month : Option Nat := none
  year : Option Nat := none
  /-- Was a span of time gone back? -/
  goesBack : Bool := false
  isNever : Bool := false
  /-- Has anything been said about the time? -/
  isTold : Bool := false

/-- The year, the month and the day that count as the present. -/
def present : Nat × Nat × Nat := (2026, 7, 15)

/-- The date with what is not told taken from the present. -/
def Hint.filled (h : Hint) : Hint :=
  let month := h.month.getD present.2.1
  { h with
    day := some (h.day.getD present.2.2)
    month := some month
    year := some (h.year.getD (if present.2.1 < month then present.1 - 1 else present.1)) }

/-- The open number as a day, a month or a year. -/
def Hint.settled (h : Hint) : Hint :=
  let n := h.number
  let h := { h with number := 0 }
  if n = 0 then h
  else if h.day.isNone && n < 32 then { h with day := some n }
  else if h.month.isNone && n < 13 then { h with month := some n }
  else if h.year.isSome then h
  else if 1969 < n && n < 2100 then { h with year := some n }
  else if 69 < n && n < 100 then { h with year := some (1900 + n) }
  else if n < 38 then { h with year := some (2000 + n) }
  else h

/-- The time of what was read; none if nothing was told. -/
def Hint.moment? (h : Hint) : Option Moment :=
  if !h.isTold then none
  else if h.isNever then some .never
  else
    let h := h.settled.filled
    let date := (h.year.getD 0, h.month.getD 0, h.day.getD 0)
    let isPast := date.1 < present.1 || (date.1 = present.1 && (date.2.1 < present.2.1
      || (date.2.1 = present.2.1 && date.2.2 < present.2.2)))
    some (if h.goesBack || isPast then .early else .late)

/-- The number of units at the beginning of a name that a word consists of; 0 if it is none of its
beginnings. -/
def agreement (word : Text) (name : String) : Nat :=
  if word.isPrefixOf (Text.ofString name) then word.length else 0

/-- The names of the months. -/
def months : List String :=
  ["january", "february", "march", "april", "may", "june", "july", "august", "september",
    "october", "november", "december"]

/-- The names of the days of the week. -/
def weekdays : List String :=
  ["sundays", "mondays", "tuesdays", "wednesdays", "thursdays", "fridays", "saturdays"]

/-- The names of numbers. -/
def numberNames : List String :=
  ["zero", "one", "two", "three", "four", "five", "six", "seven", "eight", "nine", "ten"]

/-- Names of spans of time, and how many of their letters have to be there. -/
def spans : List (String × Nat) :=
  [("seconds", 6), ("minutes", 6), ("hours", 4), ("days", 3), ("weeks", 4)]
    ++ weekdays.map (fun d => (d, 3)) ++ [("months", 5), ("years", 4)]

/-- Takes a word in small letters into account. -/
def Hint.addWord (h : Hint) (word : Text) : Hint :=
  let is (s : String) : Bool := word = Text.ofString s
  let told := { h with isTold := true }
  let back : Hint := { told.filled with number := 0, goesBack := true }
  match months.findIdx? fun m => 3 ≤ agreement word m with
  | some i => { told with month := some (i + 1) }
  | none =>
    if is "now" then { told.filled with number := 0 }
    else if is "yesterday" || is "noon" || is "midnight" || is "tea" then back
    else if is "never" then { told with number := 0, isNever := true }
    else if is "am" || is "pm" then { told with number := 0 }
    else if h.number = 0 then
      match (numberNames.drop 1).findIdx? is with
      | some i => { told with number := i + 1 }
      | none => if is "last" then { told with number := 1 } else h
    else if spans.any fun s => s.2 ≤ agreement word s.1 then back
    else h

/-- The value of digits. -/
def valueOf (digits : Text) : Nat :=
  digits.foldl (fun (n : Nat) u => 10 * n + (u.toNat - 48)) 0

/-- A date of three numbers with the same mark between them: its year, month and day, and what comes
after it. -/
def date? (t : Text) : Option ((Nat × Nat × Nat) × Text) :=
  let digits (t : Text) : Text := t.takeWhile GitConfig.isDigit
  let first := digits t
  let behind := t.drop first.length
  behind.head?.bind fun mark =>
    if !(Text.ofString "-/.").any (· == mark) then none
    else
      let second := digits (behind.drop 1)
      let rest := behind.drop (second.length + 1)
      let third := digits (rest.drop 1)
      if second.isEmpty || third.isEmpty || rest.head? ≠ some mark then none
      else
        let (a, b, c) := (valueOf first, valueOf second, valueOf third)
        let isDay (m d : Nat) : Bool := 0 < m && m < 13 && 0 < d && d < 32
        let after := rest.drop (third.length + 1)
        if 1970 ≤ a && a < 2100 && isDay b c then some ((a, b, c), after)
        else if 1970 ≤ c && c < 2100 && isDay a b then some ((c, a, b), after)
        else none

/-- Takes a number into account. -/
def Hint.addNumber (h : Hint) (digits : Text) : Hint :=
  let h := { h.settled with isTold := true }
  if digits.head? = some (Text.unit '0') && 2 < digits.length then h
  else { h with number := valueOf digits }

/-- Reads the rest of a text. -/
def read : (fuel : Nat) → Text → Hint → Hint
  | 0, _, h => h
  | _ + 1, [], h => h
  | n + 1, u :: rest, h =>
    if GitConfig.isDigit u then
      match date? (u :: rest) with
      | some ((year, month, day), after) =>
        read n after
          { h.settled with isTold := true, year := some year, month := some month, day := some day }
      | none =>
        read n (rest.dropWhile GitConfig.isDigit)
          (h.addNumber (u :: rest.takeWhile GitConfig.isDigit))
    else if GitConfig.isLetter u then
      let word := (u :: rest.takeWhile GitConfig.isLetter).map GitConfig.small
      let after := rest.dropWhile GitConfig.isLetter
      read n after (if after.head?.any GitConfig.isDigit then h else h.addWord word)
    else read n rest h

/-- The time that a text tells. -/
def ofText? (t : Text) : Option Moment := (read (t.length + 1) t {}).moment?

end Moment

end CallAtlas
