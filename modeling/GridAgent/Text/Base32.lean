/-!
# Crockford base 32

A 128-bit value is written as 26 digits of five bits each, most significant first. The digit
alphabet leaves out I, L, O and U; letters of either case are read. The first digit of a text could
carry two bits more than the value holds, and those are dropped.
-/

namespace GridAgent.Text.Base32

/-- The thirty-two digits in order of value. -/
def alphabet : List Char := "0123456789ABCDEFGHJKMNPQRSTVWXYZ".toList

/-- Why a text is no 128-bit value. -/
inductive DecodeError where
  /-- The text is not 26 bytes long. -/
  | invalidLength
  /-- The text holds a character outside the alphabet. -/
  | invalidCharacter
  deriving DecidableEq, Repr

/-- The wording of a decode error. -/
def DecodeError.message : DecodeError → String
  | .invalidLength => "invalid length"
  | .invalidCharacter => "invalid character"

/-- Number of digits of a 128-bit value. -/
def width : Nat := 26

/-- The digit of a value below thirty-two. -/
def digit (n : Nat) : Char := alphabet.getD n '0'

/-- The `count` lowest base-32 digits of a number, most significant first. -/
def digits : Nat → Nat → List Char
  | 0, _ => []
  | count + 1, n => digits count (n / 32) ++ [digit (n % 32)]

/-- The 26 digits of a 128-bit value. -/
def encode (value : BitVec 128) : String := String.ofList (digits width value.toNat)

/-- The value of one digit, of either case. -/
def digitValue? (c : Char) : Option Nat := alphabet.idxOf? c.toUpper

/-- The number written by a list of digits, continuing from `acc`. -/
def accumulate : Nat → List Char → Option Nat
  | acc, [] => some acc
  | acc, c :: rest => (digitValue? c).bind fun d => accumulate (acc * 32 + d) rest

/-- Reads 26 digits; the bits that the first digit has too many are dropped. -/
def decode (s : String) : Except DecodeError (BitVec 128) :=
  if s.utf8ByteSize = width then
    match accumulate 0 s.toList with
    | some n => .ok (BitVec.ofNat 128 n)
    | none => .error .invalidCharacter
  else .error .invalidLength

end GridAgent.Text.Base32
