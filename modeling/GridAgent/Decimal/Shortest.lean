import GridAgent.Decimal.Binary

/-!
# Shortest decimals

A finite binary number is written with the fewest decimal digits that read back as the same number,
and of those the nearest ones. The value and the interval of reals that round to it are kept as
exact fractions: a grid of decimals is tried for one digit, then two, up to seventeen, and the first
grid with a point in the interval gives the digits. The ends of the interval belong to it exactly
when the significand is even.
-/

namespace GridAgent.Decimal

/-- Digits and the power of ten of the last one. -/
structure Digits where
  /-- The digits as one number. -/
  number : Nat
  /-- Power of ten of the last digit. -/
  exponent : Int
  deriving DecidableEq, Repr

/-- A value between two bounds over a common denominator. -/
structure Interval where
  /-- Lower end. -/
  low : Nat
  /-- The value itself. -/
  value : Nat
  /-- Upper end. -/
  high : Nat
  /-- Common denominator. -/
  denominator : Nat
  /-- The ends round to the value too. -/
  closed : Bool

/-- The interval of reals that round to a number, in quarters of the last place. -/
def Binary.interval (b : Binary) : Interval :=
  let up := Nat.pow 2 b.exponent.toNat
  let down := Nat.pow 2 (-b.exponent).toNat
  let value := 4 * b.significand * up
  ⟨value - (if b.atBinade then 1 else 2) * up, value, value + 2 * up, 4 * down,
    b.significand % 2 = 0⟩

/-- `n * 10 ^ exponent` lies in the interval. -/
def Interval.contains (i : Interval) (n : Nat) (exponent : Int) : Bool :=
  let point := n * Nat.pow 10 exponent.toNat * i.denominator
  let scale := Nat.pow 10 (-exponent).toNat
  if i.closed then i.low * scale ≤ point && point ≤ i.high * scale
  else i.low * scale < point && point < i.high * scale

/-- Twice the distance from `n * 10 ^ exponent` to the value, up to a common factor. -/
def Interval.distance (i : Interval) (n : Nat) (exponent : Int) : Nat :=
  let point := n * Nat.pow 10 exponent.toNat * i.denominator
  let value := i.value * Nat.pow 10 (-exponent).toNat
  if point ≤ value then value - point else point - value

/-- The point of the grid `10 ^ exponent` in the interval that is nearest to the value; the even one
of two equally near. -/
def Interval.onGrid? (i : Interval) (exponent : Int) : Option Nat :=
  let below := i.value * Nat.pow 10 (-exponent).toNat / (i.denominator * Nat.pow 10 exponent.toNat)
  let above := below + 1
  match i.contains below exponent, i.contains above exponent with
  | true, false => some below
  | false, true => some above
  | true, true =>
    let b := i.distance below exponent
    let a := i.distance above exponent
    if b < a then some below
    else if a < b then some above
    else if below % 2 = 0 then some below else some above
  | false, false => none

/-- The least power of ten above the value, searched upwards from a lower one. -/
def Interval.ceilPower (i : Interval) : Nat → Int → Int
  | 0, k => k
  | fuel + 1, k =>
    if i.value * Nat.pow 10 (-k).toNat < Nat.pow 10 k.toNat * i.denominator then k
    else i.ceilPower fuel (k + 1)

/-- Tries the grids with `count`, `count + 1`, … digits. -/
def Interval.search (i : Interval) (top : Int) : Nat → Nat → Digits
  | 0, count => ⟨(i.onGrid? (top - count)).getD 0, top - count⟩
  | fuel + 1, count =>
    match i.onGrid? (top - count) with
    | some n => ⟨n, top - count⟩
    | none => i.search top fuel (count + 1)

/-- Removes trailing zeros. -/
def Digits.trim : Nat → Digits → Digits
  | 0, d => d
  | fuel + 1, d =>
    if d.number ≠ 0 ∧ d.number % 10 = 0 then Digits.trim fuel ⟨d.number / 10, d.exponent + 1⟩ else d

/-- The shortest digits of a positive binary number. -/
def Binary.shortest (b : Binary) : Digits :=
  let i := b.interval
  (i.search (i.ceilPower 700 (-330)) 17 1).trim 20

/-- Digits written out around the decimal point, without an exponent. -/
def Digits.positional (d : Digits) : String :=
  let digits := (toString d.number).toList
  if 0 ≤ d.exponent then String.ofList (digits ++ List.replicate d.exponent.toNat '0')
  else
    let places := d.exponent.natAbs
    let padded := List.replicate (places + 1 - digits.length) '0' ++ digits
    let whole := padded.length - places
    String.ofList (padded.take whole ++ '.' :: padded.drop whole)

/-- A sign in front of negative numbers. -/
def signed (negative : Bool) (s : String) : String := if negative then "-" ++ s else s

/-- A double-precision number in positional decimal, never with an exponent. -/
def plain (x : Float) : String :=
  match Parts.ofBits x.toBits.toNat with
  | .nan => "NaN"
  | .infinite negative => signed negative "inf"
  | .zero negative => signed negative "0"
  | .finite negative b => signed negative b.shortest.positional

/-- Digits with a point after the first and a power of ten. -/
def Digits.scientific (d : Digits) : String :=
  let digits := (toString d.number).toList
  let power := d.exponent + (digits.length - 1 : Nat)
  let mantissa := match digits with
    | [] => []
    | [c] => [c]
    | c :: rest => c :: '.' :: rest
  String.ofList mantissa ++ "e" ++ toString power

/-- A double-precision number as it stands in a diagnosis: a whole number keeps `.0`, and numbers of
at least `10 ^ 16` or below `10 ^ -4` have a power of ten. -/
def diagnostic (x : Float) : String :=
  match Parts.ofBits x.toBits.toNat with
  | .nan => "NaN"
  | .infinite negative => signed negative "inf"
  | .zero negative => signed negative "0.0"
  | .finite negative b =>
    let d := b.shortest
    let power := d.exponent + ((toString d.number).length - 1 : Nat)
    if power < -4 || 16 ≤ power then signed negative d.scientific
    else if 0 ≤ d.exponent then signed negative (d.positional ++ ".0")
    else signed negative d.positional

end GridAgent.Decimal
