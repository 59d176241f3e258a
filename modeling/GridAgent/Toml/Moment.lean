import GridAgent.Json
import GridAgent.Text.Digits
import GridAgent.Time.Calendar

/-!
# Moments of a settings file

A moment is a date, a time of day, or both, and then an offset may follow. No setting takes one, so
only its text is kept. A leap second is let pass on any day.
-/

namespace GridAgent.Toml

/-- Reads a number of so many digits between two bounds. -/
def readField (digits low high : Nat) (cs : List Char) : Option (Nat × List Char) :=
  let field := cs.take digits
  if field.length = digits ∧ field.all Char.isDigit then
    let n := Text.numberOf 10 field
    if low ≤ n ∧ n ≤ high then some (n, cs.drop digits) else none
  else none

/-- Drops a given character. -/
def expect (c : Char) : List Char → Option (List Char)
  | d :: rest => if d = c then some rest else none
  | [] => none

/-- Reads a date. -/
def readDate (cs : List Char) : Option (List Char) := do
  let (year, rest) ← readField 4 0 9999 cs
  let (month, rest) ← readField 2 1 12 (← expect '-' rest)
  let (_, rest) ← readField 2 1 (Time.daysInMonth year month) (← expect '-' rest)
  return rest

/-- Reads an hour and a minute. -/
def readHourMinute (cs : List Char) : Option (List Char) := do
  let (_, rest) ← readField 2 0 23 cs
  let (_, rest) ← readField 2 0 59 (← expect ':' rest)
  return rest

/-- Reads a time of day, perhaps with a fraction of a second. -/
def readTime (cs : List Char) : Option (List Char) := do
  let rest ← readHourMinute cs
  let (_, rest) ← readField 2 0 60 (← expect ':' rest)
  match rest with
  | '.' :: d :: rest => if d.isDigit then return rest.dropWhile Char.isDigit else none
  | rest => return rest

/-- Reads an optional offset. -/
def readOffset : List Char → Option (List Char)
  | 'Z' :: rest => some rest
  | 'z' :: rest => some rest
  | '+' :: rest => readHourMinute rest
  | '-' :: rest => readHourMinute rest
  | cs => some cs

/-- A time of day begins here. -/
def startsTime : List Char → Bool
  | a :: b :: ':' :: _ => a.isDigit && b.isDigit
  | _ => false

/-- A date begins here. -/
def startsDate : List Char → Bool
  | a :: b :: c :: d :: '-' :: _ => [a, b, c, d].all Char.isDigit
  | _ => false

/-- Reads a time of day with an optional offset after a date, if one follows. -/
def readTimeAfterDate : List Char → Option (List Char)
  | [] => some []
  | c :: rest =>
    if (c = 'T' || c = 't' || c = ' ') && startsTime rest then readTime rest >>= readOffset
    else some (c :: rest)

/-- What follows a moment, if one begins here. -/
def afterMoment? (cs : List Char) : Option (Option (List Char)) :=
  if startsDate cs then some (readDate cs >>= readTimeAfterDate)
  else if startsTime cs then some (readTime cs)
  else none

/-- A moment as JSON: an object with its text. -/
def momentJson (text : List Char) : Json := .obj [("moment", .str (String.ofList text))]

end GridAgent.Toml
