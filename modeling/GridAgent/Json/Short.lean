import GridAgent.Json
import GridAgent.Id
import GridAgent.Time.Timestamp

/-!
# Short forms

Descriptions that people write by hand leave out what is usual. A member that is null counts as left
out, an identifier may be given by its number, and a date by its milliseconds.
-/

namespace GridAgent.Json

variable {α : Type}

/-- A member that is neither left out nor null. -/
def given? (j : Json) (name : String) : Option Json :=
  match j.member? name with
  | none => none
  | some .null => none
  | some v => some v

/-- Reads a member that must be given. -/
def need (j : Json) (name : String) (read : Json → Option α) : Option α := j.given? name >>= read

/-- Reads a member that may be left out. -/
def maybe (j : Json) (name : String) (read : Json → Option α) : Option (Option α) :=
  match j.given? name with
  | none => some none
  | some v => (read v).map some

/-- Reads a member with a default. -/
def orDefault (j : Json) (name : String) (default : α) (read : Json → Option α) : Option α :=
  match j.given? name with
  | none => some default
  | some v => read v

/-- A natural number of 64 bits. -/
def nat? (j : Json) : Option Nat := j.natOfBits? 64

/-- A whole number of 64 bits, with or without sign. -/
def int? (j : Json) : Option Int := j.intIn? (-Nat.pow 2 63) (Nat.pow 2 64 - 1)

/-- What a reader makes of each item of an array. -/
def list? (read : Json → Option α) (j : Json) : Option (List α) := j.listOf? read

/-- What a name stands for. -/
def named? (ofName : String → Option α) (j : Json) : Option α := j.text? >>= ofName

/-- An identifier by its number or its digits. -/
def id? {kind : IdKind} : Json → Option (Id kind)
  | .int n => if 0 ≤ n then some (.ofNat n.toNat) else none
  | .str s => (Id.ofDigits s).toOption
  | _ => none

/-- A date by its milliseconds since 1970 or its text. -/
def date? : Json → Option Date
  | .int n => Date.ofMillis? n
  | .str s => Date.read? s
  | _ => none

/-- A number, infinite ones and one that is none included. -/
def float? : Json → Option Float
  | .str "inf" => some (1.0 / 0.0)
  | .str "-inf" => some (-1.0 / 0.0)
  | .str "nan" => some (0.0 / 0.0)
  | j => j.number?

end GridAgent.Json
