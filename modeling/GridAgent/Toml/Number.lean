import GridAgent.Decimal.Nearest
import GridAgent.Json
import GridAgent.Text.Digits

/-!
# Numbers of a settings file

Whole numbers have 64 bits with sign and may be written in base two, eight or sixteen. Other numbers
have a fraction or an exponent, or are infinite or no number. Single underscores may part digits. A
positive number that is too large is refused; a negative one becomes infinite.
-/

namespace GridAgent.Toml

/-- A digit of a base comes first. -/
def startsDigit (base : Nat) : List Char → Bool
  | [] => false
  | c :: _ => Text.isDigitOf base c

/-- Reads one or more digits of a base, which single underscores may part. -/
def readDigits (base : Nat) : List Char → Option (List Char × List Char)
  | [] => none
  | d :: '_' :: rest =>
    if Text.isDigitOf base d then (readDigits base rest).map fun r => (d :: r.1, r.2) else none
  | d :: rest =>
    if !Text.isDigitOf base d then none
    else if startsDigit base rest then (readDigits base rest).map fun r => (d :: r.1, r.2)
    else some ([d], rest)

/-- Reads the digits in front of the point; none follows a leading zero. -/
def readWhole : List Char → Option (List Char × List Char)
  | '0' :: rest => some (['0'], rest)
  | cs => readDigits 10 cs

/-- Reads an optional fraction. -/
def readFraction : List Char → Option (Option (List Char) × List Char)
  | '.' :: rest => (readDigits 10 rest).map fun r => (some r.1, r.2)
  | cs => some (none, cs)

/-- Reads an exponent after its letter. -/
def readPower : List Char → Option (Int × List Char)
  | '-' :: rest => (readDigits 10 rest).map fun r => (-(Text.numberOf 10 r.1 : Int), r.2)
  | '+' :: rest => (readDigits 10 rest).map fun r => ((Text.numberOf 10 r.1 : Int), r.2)
  | cs => (readDigits 10 cs).map fun r => ((Text.numberOf 10 r.1 : Int), r.2)

/-- Reads an optional exponent. -/
def readExponent : List Char → Option (Option Int × List Char)
  | 'e' :: rest => (readPower rest).map fun r => (some r.1, r.2)
  | 'E' :: rest => (readPower rest).map fun r => (some r.1, r.2)
  | cs => some (none, cs)

/-- A whole number of 64 bits with sign. -/
def whole? (negative : Bool) (n : Nat) : Option Json :=
  if negative then (if n ≤ Nat.pow 2 63 then some (.int (-(n : Int))) else none)
  else if n < Nat.pow 2 63 then some (.int n)
  else none

/-- A number that is not infinitely large. -/
def fractional? (negative : Bool) (number : Nat) (power : Int) : Option Json :=
  let x := Decimal.nearestSigned negative number power
  if x.isInf && !negative then none else some (.float x)

/-- Reads a number after its sign. -/
def readSigned (negative : Bool) : List Char → Option (Json × List Char)
  | 'i' :: 'n' :: 'f' :: rest =>
    some (.float (if negative then -1.0 / 0.0 else 1.0 / 0.0), rest)
  | 'n' :: 'a' :: 'n' :: rest => some (.float (0.0 / 0.0), rest)
  | cs => do
    let (whole, rest) ← readWhole cs
    let (fraction, rest) ← readFraction rest
    let (power, rest) ← readExponent rest
    match fraction, power with
    | none, none => return (← whole? negative (Text.numberOf 10 whole), rest)
    | _, _ =>
      let places := fraction.getD []
      let number := Text.numberOf 10 (whole ++ places)
      return (← fractional? negative number (power.getD 0 - places.length), rest)

/-- Reads the digits of a whole number in a given base. -/
def readBased (base : Nat) (cs : List Char) : Option (Json × List Char) := do
  let (digits, rest) ← readDigits base cs
  return (← whole? false (Text.numberOf base digits), rest)

/-- Reads a number. -/
def readNumber : List Char → Option (Json × List Char)
  | '0' :: 'x' :: rest => readBased 16 rest
  | '0' :: 'o' :: rest => readBased 8 rest
  | '0' :: 'b' :: rest => readBased 2 rest
  | '+' :: rest => readSigned false rest
  | '-' :: rest => readSigned true rest
  | cs => readSigned false cs

end GridAgent.Toml
