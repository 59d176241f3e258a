import GridAgent.Text.Digits

/-!
# Texts of a settings file

A text stands between quotes, double ones with escapes or single ones without, on one line or, after
three quotes, on several. The line end after three opening quotes does not count, a line end counts
as one character, and a backslash before one joins the lines. Up to two quotes may stand before
three closing ones.
-/

namespace GridAgent.Toml

/-- A character that may stand in a line: a tab, and whatever is no control character of ASCII. -/
def isPlain (c : Char) : Bool := c = '\t' || (' ' ≤ c && c ≠ '\x7f')

/-- A space or a tab. -/
def isSpace (c : Char) : Bool := c = ' ' || c = '\t'

/-- Drops leading spaces and tabs. -/
def skipSpace (cs : List Char) : List Char := cs.dropWhile isSpace

/-- Drops one line end, if there is one. -/
def afterLineEnd? : List Char → Option (List Char)
  | '\n' :: rest => some rest
  | '\r' :: '\n' :: rest => some rest
  | _ => none

/-- Drops leading spaces, tabs and line ends. -/
def skipBlankLines : List Char → List Char
  | ' ' :: rest => skipBlankLines rest
  | '\t' :: rest => skipBlankLines rest
  | '\n' :: rest => skipBlankLines rest
  | '\r' :: '\n' :: rest => skipBlankLines rest
  | cs => cs

/-- Reads a code point of so many hexadecimal digits. -/
def readCodePoint (digits : Nat) (cs : List Char) : Option (Char × List Char) :=
  let code := cs.take digits
  if code.length = digits ∧ code.all (Text.isDigitOf 16) then
    let n := Text.numberOf 16 code
    if n.isValidChar then some (Char.ofNat n, cs.drop digits) else none
  else none

/-- Reads what follows a backslash. -/
def readEscape : List Char → Option (Char × List Char)
  | 'u' :: rest => readCodePoint 4 rest
  | 'U' :: rest => readCodePoint 8 rest
  | c :: rest =>
    ([('b', '\x08'), ('f', '\x0c'), ('n', '\n'), ('r', '\r'), ('t', '\t'), ('\\', '\\'),
      ('"', '"')].lookup c).map fun meant => (meant, rest)
  | [] => none

/-- A text in these quotes has escapes. -/
def hasEscapes (quote : Char) : Bool := quote = '"'

/-- Reads a text on one line up to its closing quote, with the characters so far in reverse. -/
def readLine (quote : Char) : (most : Nat) → (soFar : List Char) → List Char →
    Option (String × List Char)
  | 0, _, _ => none
  | _ + 1, _, [] => none
  | most + 1, soFar, c :: rest =>
    if c = quote then some (String.ofList soFar.reverse, rest)
    else if c = '\\' ∧ hasEscapes quote then do
      let (c, rest) ← readEscape rest
      readLine quote most (c :: soFar) rest
    else if isPlain c then readLine quote most (c :: soFar) rest
    else none

/-- What follows a backslash that joins lines. -/
def afterJoint? (cs : List Char) : Option (List Char) :=
  (afterLineEnd? (skipSpace cs)).map skipBlankLines

/-- Reads a text on several lines up to its closing quotes, with the characters so far in reverse.
-/
def readLines (quote : Char) : (most : Nat) → (soFar : List Char) → List Char →
    Option (String × List Char)
  | 0, _, _ => none
  | _ + 1, _, [] => none
  | most + 1, soFar, c :: rest =>
    if c = quote then
      let quotes := ((c :: rest).takeWhile (· = quote)).length
      if quotes < 3 then readLines quote most (c :: soFar) rest
      else
        let extra := min (quotes - 3) 2
        let soFar := List.replicate extra quote ++ soFar
        some (String.ofList soFar.reverse, rest.drop (extra + 2))
    else if c = '\\' ∧ hasEscapes quote then
      match afterJoint? rest with
      | some rest => readLines quote most soFar rest
      | none => do
        let (c, rest) ← readEscape rest
        readLines quote most (c :: soFar) rest
    else
      match afterLineEnd? (c :: rest) with
      | some rest => readLines quote most ('\n' :: soFar) rest
      | none => if isPlain c then readLines quote most (c :: soFar) rest else none

/-- Reads a text on one line after its opening quote. -/
def readName (quote : Char) (cs : List Char) : Option (String × List Char) :=
  readLine quote (cs.length + 1) [] cs

/-- Reads a text after its first quote. -/
def readText (quote : Char) (cs : List Char) : Option (String × List Char) :=
  match cs with
  | a :: b :: rest =>
    if a = quote ∧ b = quote then
      let rest := (afterLineEnd? rest).getD rest
      readLines quote (rest.length + 1) [] rest
    else readName quote cs
  | _ => readName quote cs

end GridAgent.Toml
