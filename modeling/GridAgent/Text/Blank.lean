/-!
# Blank characters

The characters with the white space property: the blanks and line ends of ASCII, and the spaces and
separators beyond it.
-/

namespace GridAgent.Text

/-- The white space characters beyond ASCII. -/
def widerBlanks : List Nat :=
  [0x85, 0xa0, 0x1680, 0x2000, 0x2001, 0x2002, 0x2003, 0x2004, 0x2005, 0x2006, 0x2007, 0x2008,
    0x2009, 0x200a, 0x2028, 0x2029, 0x202f, 0x205f, 0x3000]

/-- A white space character. -/
def isBlank (c : Char) : Bool :=
  let code := c.toNat
  (0x09 ≤ code && code ≤ 0x0d) || code = 0x20 || widerBlanks.contains code

end GridAgent.Text
