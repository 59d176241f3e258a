/-!
# Stored binary numbers

A double-precision number is taken apart into sign, significand and power of two, so that questions
about its exact value are questions about natural numbers. Quotients are rounded to the nearest
whole number, and a tie goes to the even one.
-/

namespace GridAgent.Decimal

/-- A positive binary number `significand * 2 ^ exponent` as it is stored. -/
structure Binary where
  /-- Significand, below `2 ^ 53`. -/
  significand : Nat
  /-- Power of two. -/
  exponent : Int
  /-- The neighbour below is only half as far away as the one above. -/
  atBinade : Bool

/-- A stored double-precision number, taken apart. -/
inductive Parts where
  | nan
  | infinite (negative : Bool)
  | zero (negative : Bool)
  | finite (negative : Bool) (magnitude : Binary)

/-- Takes the 64 bits of a double-precision number apart. -/
def Parts.ofBits (bits : Nat) : Parts :=
  let negative : Bool := bits / Nat.pow 2 63 % 2 = 1
  let biased : Nat := bits / Nat.pow 2 52 % Nat.pow 2 11
  let fraction : Nat := bits % Nat.pow 2 52
  if biased = 2047 then (if fraction = 0 then .infinite negative else .nan)
  else if biased = 0 then
    if fraction = 0 then .zero negative
    else .finite negative ⟨fraction, -1074, false⟩
  else
    .finite negative
      ⟨Nat.pow 2 52 + fraction, (biased : Int) - 1075, decide (fraction = 0 ∧ 1 < biased)⟩

/-- The whole number nearest to a quotient; of two equally near, the even one. -/
def roundHalfEven (numerator denominator : Nat) : Nat :=
  let quotient := numerator / denominator
  let rest := 2 * (numerator % denominator)
  if rest < denominator then quotient
  else if denominator < rest then quotient + 1
  else if quotient % 2 = 0 then quotient else quotient + 1

/-- A multiple of a positive binary number, rounded to the nearest whole number. -/
def Binary.roundedMultiple (b : Binary) (factor : Nat) : Nat :=
  roundHalfEven (b.significand * factor * Nat.pow 2 b.exponent.toNat)
    (Nat.pow 2 (-b.exponent).toNat)

end GridAgent.Decimal
