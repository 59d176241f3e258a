/-!
# Civil calendar

Days are counted from 1970-01-01 in the proleptic Gregorian calendar, where a year may be zero or
negative. `daysFromCivil` and `civilFromDays` go through a calendar that starts in March, so that
the leap day is the last day of its year, and through eras of 400 years, which all have the same
length.
-/

namespace GridAgent.Time

/-- A day of the civil calendar. -/
structure CivilDay where
  /-- Year; zero is the year before year one. -/
  year : Int
  /-- Month, from 1 to 12. -/
  month : Nat
  /-- Day of the month, from 1. -/
  day : Nat
  deriving DecidableEq, Repr

/-- Days in an era of 400 years. -/
def daysPerEra : Int := 146097

/-- Days between 0000-03-01 and 1970-01-01. -/
def epochOffset : Int := 719468

/-- A year with a 29th of February. -/
def isLeapYear (year : Int) : Bool :=
  year % 4 = 0 && (year % 100 ≠ 0 || year % 400 = 0)

/-- Number of days of a month. -/
def daysInMonth (year : Int) (month : Nat) : Nat :=
  if month = 2 then (if isLeapYear year then 29 else 28)
  else if month = 4 || month = 6 || month = 9 || month = 11 then 30
  else 31

/-- Days from 1970-01-01 to a civil day. -/
def daysFromCivil (d : CivilDay) : Int :=
  let year := if d.month ≤ 2 then d.year - 1 else d.year
  let era := year / 400
  let yearOfEra := year - era * 400
  let monthFromMarch : Int := ((d.month + 9) % 12 : Nat)
  let dayOfYear := (153 * monthFromMarch + 2) / 5 + d.day - 1
  let dayOfEra := yearOfEra * 365 + yearOfEra / 4 - yearOfEra / 100 + dayOfYear
  era * daysPerEra + dayOfEra - epochOffset

/-- The civil day a number of days after 1970-01-01. -/
def civilFromDays (days : Int) : CivilDay :=
  let shifted := days + epochOffset
  let era := shifted / daysPerEra
  let dayOfEra := shifted - era * daysPerEra
  let yearOfEra := (dayOfEra - dayOfEra / 1460 + dayOfEra / 36524 - dayOfEra / 146096) / 365
  let dayOfYear := dayOfEra - (365 * yearOfEra + yearOfEra / 4 - yearOfEra / 100)
  let monthFromMarch := ((5 * dayOfYear + 2) / 153).toNat
  let day := (dayOfYear - (153 * monthFromMarch + 2) / 5 + 1).toNat
  let month := if monthFromMarch < 10 then monthFromMarch + 3 else monthFromMarch - 9
  let year := yearOfEra + era * 400
  ⟨if month ≤ 2 then year + 1 else year, month, day⟩

end GridAgent.Time
