import GridAgent.Toml.Document
import GridAgent.Toml.Moment
import GridAgent.Toml.Number
import GridAgent.Toml.Text

/-!
# Values of a settings file

A value is a text, a truth value, a number, a moment, a list, or a table in one line. A list may
stretch over lines with comments and may end in a comma; a table in one line may not. Lists and
tables nest less than eighty deep, and a key has fewer than eighty parts.
-/

namespace GridAgent.Toml

/-- How deep values nest and how many parts a key has stays below this. -/
def nestingLimit : Nat := 80

/-- A character of a name without quotes. -/
def isNameChar (c : Char) : Bool := c.isAlphanum || c = '-' || c = '_'

/-- Reads a name, with or without quotes. -/
def readPart : List Char → Option (String × List Char)
  | '"' :: rest => readName '"' rest
  | '\'' :: rest => readName '\'' rest
  | cs =>
    let name := cs.takeWhile isNameChar
    if name.isEmpty then none else some (String.ofList name, cs.dropWhile isNameChar)

/-- Reads the parts of a key, which points separate; at most so many. -/
def readParts : (most : Nat) → List Char → Option (List String × List Char)
  | 0, _ => none
  | most + 1, cs => do
    let (part, rest) ← readPart (skipSpace cs)
    match skipSpace rest with
    | '.' :: rest =>
      let (parts, rest) ← readParts most rest
      return (part :: parts, rest)
    | rest => return ([part], rest)

/-- Reads a key. -/
def readKey (cs : List Char) : Option (Key × List Char) := do
  let (parts, rest) ← readParts (nestingLimit - 1) cs
  let name ← parts.getLast?
  return (⟨parts.dropLast, name⟩, rest)

/-- Reads a key up to the equals sign and the spaces after it. -/
def readKeyOfPair (cs : List Char) : Option (Key × List Char) := do
  let (key, rest) ← readKey cs
  return (key, skipSpace (← expect '=' rest))

/-- Drops spaces, line ends and comments. A comment runs up to a line end. -/
def skipFiller : (inComment : Bool) → List Char → Option (List Char)
  | _, '\n' :: rest => skipFiller false rest
  | _, '\r' :: '\n' :: rest => skipFiller false rest
  | true, c :: rest => if isPlain c then skipFiller true rest else none
  | true, [] => none
  | false, '#' :: rest => skipFiller true rest
  | false, ' ' :: rest => skipFiller false rest
  | false, '\t' :: rest => skipFiller false rest
  | false, cs => some cs

/-- Reads a number or a moment. -/
def readScalar (cs : List Char) : Option (Json × List Char) :=
  match afterMoment? cs with
  | some rest => rest.map fun rest => (momentJson (cs.take (cs.length - rest.length)), rest)
  | none => readNumber cs

mutual

/-- Reads a value at some depth of nesting. -/
def readValue : (most : Nat) → (depth : Nat) → List Char → Option (Json × List Char)
  | 0, _, _ => none
  | most + 1, depth, cs =>
    match cs with
    | '"' :: rest => (readText '"' rest).map fun r => (.str r.1, r.2)
    | '\'' :: rest => (readText '\'' rest).map fun r => (.str r.1, r.2)
    | 't' :: 'r' :: 'u' :: 'e' :: rest => some (.bool true, rest)
    | 'f' :: 'a' :: 'l' :: 's' :: 'e' :: rest => some (.bool false, rest)
    | '[' :: rest =>
      if depth + 1 < nestingLimit then
        (readItems most (depth + 1) rest).map fun r => (.arr r.1, r.2)
      else none
    | '{' :: rest =>
      if depth + 1 < nestingLimit then do
        let (pairs, rest) ← match skipSpace rest with
          | '}' :: rest => some ([], rest)
          | rest => readPairs most (depth + 1) rest
        return (← inlineTable? pairs, rest)
      else none
    | cs => readScalar cs

/-- Reads the items of a list up to its end. -/
def readItems : (most : Nat) → (depth : Nat) → List Char → Option (List Json × List Char)
  | 0, _, _ => none
  | most + 1, depth, cs => do
    match ← skipFiller false cs with
    | ']' :: rest => return ([], rest)
    | cs =>
      let (item, rest) ← readValue most depth cs
      match ← skipFiller false rest with
      | ',' :: rest =>
        let (items, rest) ← readItems most depth rest
        return (item :: items, rest)
      | ']' :: rest => return ([item], rest)
      | _ => none

/-- Reads the pairs of a table in one line up to its end. -/
def readPairs : (most : Nat) → (depth : Nat) → List Char → Option (List (Key × Json) × List Char)
  | 0, _, _ => none
  | most + 1, depth, cs => do
    let (key, rest) ← readKeyOfPair cs
    let (value, rest) ← readValue most depth rest
    match skipSpace rest with
    | ',' :: rest =>
      let (pairs, rest) ← readPairs most depth rest
      return ((key, value) :: pairs, rest)
    | '}' :: rest => return ([(key, value)], rest)
    | _ => none

end

end GridAgent.Toml
