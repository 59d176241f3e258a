import GridAgent.Table

/-!
# Tokens

A token is fired once and stays fired. Firing a token fires its children too.
-/

namespace GridAgent.Simulation

/-- Number of a token. -/
abbrev Token := Nat

/-- Every token there is. -/
structure Tokens where
  /-- Each token with itself and the tokens above it. -/
  chains : Table Token (List Token) := .empty
  /-- Number of tokens made. -/
  count : Nat := 0
  /-- Tokens that were fired themselves. -/
  fired : List Token := []

namespace Tokens

instance : Inhabited Tokens := ⟨{}⟩

/-- The token and the tokens above it. -/
def chain (t : Tokens) (token : Token) : List Token := (t.chains.get? token).getD [token]

/-- Makes a token, below another one if there is one. -/
def make (t : Tokens) (parent : Option Token) : Token × Tokens :=
  let above := match parent with
    | some p => t.chain p
    | none => []
  (t.count, { t with chains := t.chains.set t.count (t.count :: above), count := t.count + 1 })

/-- Fires a token. -/
def fire (t : Tokens) (token : Token) : Tokens := { t with fired := token :: t.fired }

/-- The token is fired, itself or through one above it. -/
def isFired (t : Tokens) (token : Token) : Bool := (t.chain token).any t.fired.contains

end Tokens

end GridAgent.Simulation
