import GridAgent.Text.Printable

/-!
# Quoted text

Owners and names appear in messages between double quotes, so that blanks and invisible characters
can be told apart. Tab, carriage return, line feed, the quote, the backslash and the zero character
have short escapes; every other hidden character is written as its hexadecimal code point.
-/

namespace GridAgent.Text.Quoted

/-- A number in lower-case hexadecimal, without leading zeros. -/
def hex (n : Nat) : String := String.ofList (Nat.toDigits 16 n)

/-- One character as it stands between the quotes. -/
def escape (c : Char) : String :=
  if c = '\x00' then "\\0"
  else if c = '\t' then "\\t"
  else if c = '\r' then "\\r"
  else if c = '\n' then "\\n"
  else if c = '"' then "\\\""
  else if c = '\\' then "\\\\"
  else if Printable.isHidden c then "\\u\x7b" ++ hex c.toNat ++ "\x7d"
  else String.singleton c

/-- A text between double quotes. -/
def encode (s : String) : String :=
  "\"" ++ String.join (s.toList.map escape) ++ "\""

/-- A list of quoted texts between brackets, separated by a comma and a blank. -/
def encodeList (items : List String) : String :=
  "[" ++ ", ".intercalate (items.map encode) ++ "]"

end GridAgent.Text.Quoted
