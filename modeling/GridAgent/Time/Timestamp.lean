import GridAgent.Text.Blank
import GridAgent.Text.Digits
import GridAgent.Time.Date

/-!
# Written dates

Dates are written in UTC as `2023-11-14T22:13:20.5Z` with no fraction or one of three, six or nine
digits, whichever is the shortest that is exact. A year outside 0 to 9999 has a sign and at least
four digits. The reader is more lenient: blanks may stand around the parts of the date, a blank or a
lower-case `t` may part date and time, a fraction may have any number of digits, of which nine
count, and the offset may be `Z`, `UTC`, or hours and minutes with or without a colon. Any minute
may have a leap second.
-/

namespace GridAgent.Date

open Time

/-- A number in decimal with at least `width` digits. -/
def padded (width n : Nat) : String :=
  let digits := toString n
  String.ofList (List.replicate (width - digits.length) '0') ++ digits

/-- Four digits for the years 0 to 9999, otherwise a sign and at least four digits. -/
def writeYear (year : Int) : String :=
  if 0 ≤ year ∧ year ≤ 9999 then padded 4 year.toNat
  else if year < 0 then "-" ++ padded 4 year.natAbs
  else "+" ++ padded 4 year.toNat

/-- The shortest exact fraction of zero, three, six or nine digits. -/
def writeFraction (nanos : Nat) : String :=
  if nanos = 0 then ""
  else if nanos % 1000000 = 0 then "." ++ padded 3 (nanos / 1000000)
  else if nanos % 1000 = 0 then "." ++ padded 6 (nanos / 1000)
  else "." ++ padded 9 nanos

/-- The written form of a date. -/
def write (d : Date) : String :=
  let leap : Nat := if d.inLeapSecond then 1 else 0
  let seconds := d.nanos / 1000000000 - leap
  let nanos := (d.nanos % 1000000000).toNat
  let days := seconds / 86400
  let ofDay := (seconds % 86400).toNat
  let civil := civilFromDays days
  writeYear civil.year ++ "-" ++ padded 2 civil.month ++ "-" ++ padded 2 civil.day ++ "T" ++
    padded 2 (ofDay / 3600) ++ ":" ++ padded 2 (ofDay / 60 % 60) ++ ":" ++
    padded 2 (ofDay % 60 + leap) ++ writeFraction nanos ++ "Z"

/-- The value of a decimal digit. -/
def digit? (c : Char) : Option Nat :=
  if c.isDigit then some (c.toNat - '0'.toNat) else none

/-- Drops leading blanks. -/
def skipBlanks (cs : List Char) : List Char := cs.dropWhile Text.isBlank

/-- Reads one to `most` digits. -/
def readDigits (most : Nat) (cs : List Char) : Option (Nat × List Char) :=
  let digits := (cs.takeWhile Char.isDigit).take most
  if digits.isEmpty then none else some (Text.numberOf 10 digits, cs.drop digits.length)

/-- Reads an unsigned field of at most two digits, with blanks in front. -/
def readField (cs : List Char) : Option (Nat × List Char) := readDigits 2 (skipBlanks cs)

/-- Reads a year: up to four digits, or a sign and any number of digits. -/
def readYear (cs : List Char) : Option (Int × List Char) :=
  match skipBlanks cs with
  | '-' :: rest => (readDigits rest.length rest).map fun r => (-(r.1 : Int), r.2)
  | '+' :: rest => (readDigits rest.length rest).map fun r => ((r.1 : Int), r.2)
  | rest => (readDigits 4 rest).map fun r => ((r.1 : Int), r.2)

/-- Reads one given character, with blanks in front. -/
def readMark (c : Char) (cs : List Char) : Option (List Char) :=
  match skipBlanks cs with
  | d :: rest => if d = c then some rest else none
  | [] => none

/-- Reads an optional fraction of a second, in nanoseconds; digits after the ninth are dropped. -/
def readFraction (cs : List Char) : Option (Nat × List Char) :=
  match cs with
  | '.' :: rest =>
    let digits := rest.takeWhile Char.isDigit
    let kept := digits.take 9
    if kept.isEmpty then none
    else some (Text.numberOf 10 kept * Nat.pow 10 (9 - kept.length), rest.drop digits.length)
  | _ => some (0, cs)

/-- Reads hours and minutes after the sign of an offset, in seconds. -/
def readHoursMinutes (cs : List Char) : Option (Nat × List Char) := do
  match cs with
  | h1 :: h2 :: rest =>
    let hours := (← digit? h1) * 10 + (← digit? h2)
    match rest.dropWhile fun c => c = ':' || Text.isBlank c with
    | m1 :: m2 :: rest =>
      let minutes := (← digit? m1) * 10 + (← digit? m2)
      if minutes < 60 then some (hours * 3600 + minutes * 60, rest) else none
    | _ => none
  | _ => none

/-- Reads the offset from UTC, in seconds. -/
def readOffset (cs : List Char) : Option (Int × List Char) :=
  match skipBlanks cs with
  | 'Z' :: rest => some (0, rest)
  | 'z' :: rest => some (0, rest)
  | '+' :: rest => (readHoursMinutes rest).map fun r => ((r.1 : Int), r.2)
  | '-' :: rest => (readHoursMinutes rest).map fun r => (-(r.1 : Int), r.2)
  | '−' :: rest => (readHoursMinutes rest).map fun r => (-(r.1 : Int), r.2)
  | u :: t :: c :: rest =>
    if [u, t, c].map Char.toUpper = ['U', 'T', 'C'] then some (0, rest) else none
  | _ => none

/-- Reads a written date. -/
def read? (s : String) : Option Date := do
  let (year, cs) ← readYear s.toList
  let cs ← readMark '-' cs
  let (month, cs) ← readField cs
  let cs ← readMark '-' cs
  let (day, cs) ← readField cs
  match cs with
  | 't' :: cs | 'T' :: cs | ' ' :: cs =>
    let (hour, cs) ← readField cs
    let cs ← readMark ':' cs
    let (minute, cs) ← readField cs
    let cs ← readMark ':' cs
    let (second, cs) ← readField cs
    let (nanos, cs) ← readFraction cs
    let (offset, cs) ← readOffset cs
    let inRange := (skipBlanks cs).isEmpty && -262143 ≤ year && year ≤ 262142 && 1 ≤ month &&
      month ≤ 12 && 1 ≤ day && day ≤ daysInMonth year month && hour < 24 && minute < 60 &&
      second ≤ 60 && offset.natAbs < 86400
    if inRange then
      let days := daysFromCivil ⟨year, month, day⟩
      let seconds := days * 86400 + hour * 3600 + minute * 60 + second - offset
      let date ← ofNanos? (seconds * 1000000000 + nanos)
      return { date with inLeapSecond := second = 60 }
    else none
  | _ => none

end GridAgent.Date
