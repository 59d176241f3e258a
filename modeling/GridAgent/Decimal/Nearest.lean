/-!
# The nearest binary number

A decimal is read as the double-precision number nearest to it. Decimals far beyond the range are
told by their magnitude alone, so that no huge power of ten is ever computed.
-/

namespace GridAgent.Decimal

/-- The least power of ten above a positive decimal `number * 10 ^ power`. -/
def magnitude (number : Nat) (power : Int) : Int := power + (toString number).length

/-- The double-precision number nearest to `number * 10 ^ power`. -/
def nearest (number : Nat) (power : Int) : Float :=
  if number = 0 then 0.0
  else if 400 < magnitude number power then 1.0 / 0.0
  else if magnitude number power < -400 then 0.0
  else Float.ofScientific number (power < 0) power.natAbs

/-- The same with a sign. -/
def nearestSigned (negative : Bool) (number : Nat) (power : Int) : Float :=
  if negative then -nearest number power else nearest number power

end GridAgent.Decimal
