import GridAgent.Decimal.Nearest
import GridAgent.Json
import GridAgent.Text.Digits

/-!
# Reading JSON

The reader takes a text apart from the left and hands on what is left over. A number without
fraction and exponent is a whole number if it fits 64 bits, signed or not; every other number, and
minus zero, is a floating-point number. Of several members of one name the last one counts. A value
has fewer parts than its text has characters, which bounds the reading.
-/

namespace GridAgent.Json

/-- Drops leading white space. -/
def skipSpace (cs : List Char) : List Char :=
  cs.dropWhile fun c => c = ' ' || c = '\n' || c = '\t' || c = '\r'

/-- Reads four hexadecimal digits. -/
def readHex4 : List Char → Option (Nat × List Char)
  | a :: b :: c :: d :: rest => do
    let a ← Text.hexDigit? a
    let b ← Text.hexDigit? b
    let c ← Text.hexDigit? c
    let d ← Text.hexDigit? d
    return (((a * 16 + b) * 16 + c) * 16 + d, rest)
  | _ => none

/-- Reads what follows `\u`; two surrogates make one character. -/
def readUnicode (cs : List Char) : Option (Char × List Char) := do
  let (high, rest) ← readHex4 cs
  if 0xd800 ≤ high ∧ high < 0xdc00 then
    match rest with
    | '\\' :: 'u' :: rest =>
      let (low, rest) ← readHex4 rest
      if 0xdc00 ≤ low ∧ low < 0xe000 then
        return (Char.ofNat (0x10000 + (high - 0xd800) * 0x400 + (low - 0xdc00)), rest)
      else none
    | _ => none
  else if 0xdc00 ≤ high ∧ high < 0xe000 then none
  else return (Char.ofNat high, rest)

/-- The character that a letter after a backslash stands for. -/
def unescape? (c : Char) : Option Char :=
  [('"', '"'), ('\\', '\\'), ('/', '/'), ('b', '\x08'), ('f', '\x0c'), ('n', '\n'), ('r', '\r'),
    ('t', '\t')].lookup c

/-- Reads a string after its opening quote, with the characters so far in reverse. -/
def readChars : (most : Nat) → (soFar : List Char) → List Char → Option (String × List Char)
  | 0, _, _ => none
  | most + 1, soFar, cs =>
    match cs with
    | [] => none
    | '"' :: rest => some (String.ofList soFar.reverse, rest)
    | '\\' :: 'u' :: rest => do
      let (c, rest) ← readUnicode rest
      readChars most (c :: soFar) rest
    | '\\' :: e :: rest => do
      let c ← unescape? e
      readChars most (c :: soFar) rest
    | c :: rest => if c.toNat < 0x20 then none else readChars most (c :: soFar) rest

/-- A whole number, or the nearest floating-point number if it does not fit 64 bits. -/
def wholeNumber (negative : Bool) (n : Nat) : Json :=
  if negative then
    if n = 0 then .float (-0.0)
    else if n ≤ Nat.pow 2 63 then .int (-(n : Int))
    else .float (Decimal.nearestSigned true n 0)
  else if n < Nat.pow 2 64 then .int n
  else .float (Decimal.nearest n 0)

/-- Reads one or more digits. -/
def readDigits (cs : List Char) : Option (List Char × List Char) :=
  let digits := cs.takeWhile Char.isDigit
  if digits.isEmpty then none else some (digits, cs.dropWhile Char.isDigit)

/-- Reads an optional fraction. -/
def readFraction : List Char → Option (Option (List Char) × List Char)
  | '.' :: rest => do
    let (digits, rest) ← readDigits rest
    return (some digits, rest)
  | cs => some (none, cs)

/-- Reads the digits of an exponent after an optional sign. -/
def readPower : List Char → Option (Int × List Char)
  | '-' :: rest => (readDigits rest).map fun r => (-(Text.numberOf 10 r.1 : Int), r.2)
  | '+' :: rest => (readDigits rest).map fun r => ((Text.numberOf 10 r.1 : Int), r.2)
  | cs => (readDigits cs).map fun r => ((Text.numberOf 10 r.1 : Int), r.2)

/-- Reads an optional exponent. -/
def readExponent : List Char → Option (Option Int × List Char)
  | 'e' :: rest => (readPower rest).map fun r => (some r.1, r.2)
  | 'E' :: rest => (readPower rest).map fun r => (some r.1, r.2)
  | cs => some (none, cs)

/-- Reads a number after its sign. -/
def readUnsigned (negative : Bool) (cs : List Char) : Option (Json × List Char) := do
  let (whole, rest) ← readDigits cs
  if whole.head? = some '0' ∧ 1 < whole.length then none
  else
    let (fraction, rest) ← readFraction rest
    let (power, rest) ← readExponent rest
    match fraction, power with
    | none, none => return (wholeNumber negative (Text.numberOf 10 whole), rest)
    | _, _ =>
      let places := fraction.getD []
      let number := Text.numberOf 10 (whole ++ places)
      return (.float (Decimal.nearestSigned negative number (power.getD 0 - places.length)), rest)

/-- The members of an object, the last one of each name. -/
def lastOfEach (members : List (String × Json)) : List (String × Json) :=
  members.foldr (fun m kept => if kept.any fun k => k.1 = m.1 then kept else m :: kept) []

mutual

/-- Reads a value. -/
def readValue : (most : Nat) → List Char → Option (Json × List Char)
  | 0, _ => none
  | most + 1, cs =>
    match skipSpace cs with
    | 'n' :: 'u' :: 'l' :: 'l' :: rest => some (.null, rest)
    | 't' :: 'r' :: 'u' :: 'e' :: rest => some (.bool true, rest)
    | 'f' :: 'a' :: 'l' :: 's' :: 'e' :: rest => some (.bool false, rest)
    | '"' :: rest => (readChars (rest.length + 1) [] rest).map fun r => (.str r.1, r.2)
    | '[' :: rest =>
      match skipSpace rest with
      | ']' :: rest => some (.arr [], rest)
      | rest => (readItems most rest).map fun r => (.arr r.1, r.2)
    | '{' :: rest =>
      match skipSpace rest with
      | '}' :: rest => some (.obj [], rest)
      | rest => (readMembers most rest).map fun r => (.obj (lastOfEach r.1), r.2)
    | '-' :: rest => readUnsigned true rest
    | rest => readUnsigned false rest

/-- Reads items up to the closing bracket. -/
def readItems : (most : Nat) → List Char → Option (List Json × List Char)
  | 0, _ => none
  | most + 1, cs => do
    let (item, rest) ← readValue most cs
    match skipSpace rest with
    | ',' :: rest => (readItems most rest).map fun r => (item :: r.1, r.2)
    | ']' :: rest => return ([item], rest)
    | _ => none

/-- Reads members up to the closing brace. -/
def readMembers : (most : Nat) → List Char → Option (List (String × Json) × List Char)
  | 0, _ => none
  | most + 1, cs =>
    match skipSpace cs with
    | '"' :: rest => do
      let (name, rest) ← readChars (rest.length + 1) [] rest
      match skipSpace rest with
      | ':' :: rest =>
        let (value, rest) ← readValue most rest
        match skipSpace rest with
        | ',' :: rest => (readMembers most rest).map fun r => ((name, value) :: r.1, r.2)
        | '}' :: rest => return ([(name, value)], rest)
        | _ => none
      | _ => none
    | _ => none

end

/-- Reads a text that holds one value and nothing else. -/
def read? (s : String) : Option Json := do
  let cs := s.toList
  let (value, rest) ← readValue (cs.length + 1) cs
  if (skipSpace rest).isEmpty then return value else none

end GridAgent.Json
