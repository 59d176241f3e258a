import GridAgent.Json.Settings
import GridAgent.Toml.Value

/-!
# Reading a settings file

A line is blank, gives a key its value, or is a header; a comment may end any line. A byte order
mark in front is passed over. Settings are read from the file as from JSON.
-/

namespace GridAgent.Toml

/-- Reads the end of a line: spaces, perhaps a comment, and a line end or the end of the file. -/
def endLine? (cs : List Char) : Option (List Char) :=
  let rest := match skipSpace cs with
    | '#' :: rest => rest.dropWhile isPlain
    | rest => rest
  if rest.isEmpty then some [] else afterLineEnd? rest

/-- Reads a header after its first bracket. -/
def readHeader (d : Document) : List Char → Option (Document × List Char)
  | '[' :: rest => do
    let (key, rest) ← readKey rest
    let rest ← expect ']' (← expect ']' rest)
    return (← d.appendTable key, rest)
  | rest => do
    let (key, rest) ← readKey rest
    let rest ← expect ']' rest
    return (← d.openTable key, rest)

/-- Reads a pair of key and value. -/
def readPair (d : Document) (cs : List Char) : Option (Document × List Char) := do
  let (key, rest) ← readKeyOfPair cs
  let (value, rest) ← readValue (rest.length + 1) 0 rest
  return (← d.define key value, rest)

/-- Reads what a line holds in front of its end. -/
def readContent (d : Document) (cs : List Char) : Option (Document × List Char) :=
  match skipSpace cs with
  | [] => some (d, [])
  | '#' :: rest => some (d, '#' :: rest)
  | '\n' :: rest => some (d, '\n' :: rest)
  | '\r' :: rest => some (d, '\r' :: rest)
  | '[' :: rest => readHeader d rest
  | rest => readPair d rest

/-- Reads lines up to the end of the file; at most so many. -/
def readFileLines : (most : Nat) → Document → List Char → Option Document
  | _, d, [] => some d
  | 0, _, _ => none
  | most + 1, d, cs => do
    let (d, rest) ← readContent d cs
    readFileLines most d (← endLine? rest)

/-- Drops a byte order mark. -/
def dropMark : List Char → List Char
  | '\ufeff' :: rest => rest
  | cs => cs

/-- Reads a whole file. -/
def read? (text : String) : Option Json :=
  let cs := dropMark text.toList
  (readFileLines cs.length {} cs).map Document.toJson

end GridAgent.Toml

namespace GridAgent.Settings

/-- Reads settings from a file on top of defaults, without checking them. -/
def ofToml? (d : Settings) (text : String) : Option Settings := Toml.read? text >>= d.ofJson?

/-- Reads settings from a file on top of defaults and checks them. -/
def ofToml (d : Settings) (text : String) : Except SettingsError Settings :=
  match d.ofToml? text with
  | none => .error .malformed
  | some s => s.validate.map fun _ => s

end GridAgent.Settings
