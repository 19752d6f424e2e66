/-!
# White space

Blanks are trimmed from statements and settings and skipped before a keyword: the white space of
Unicode, and the four ASCII separators from file separator to unit separator. Numerals stand between
spaces alone, which leave those four out.
-/

namespace SqlWeave.Text

/-- The white space of Unicode: the ASCII controls from tab to carriage return, the space, the line
breaks and the space separators. -/
def isSpace (c : Char) : Bool :=
  let n := c.toNat
  (9 ≤ n && n ≤ 13) || n = 32 || n = 0x85 || n = 0xa0 || n = 0x1680 ||
    (0x2000 ≤ n && n ≤ 0x200a) || n = 0x2028 || n = 0x2029 || n = 0x202f || n = 0x205f || n = 0x3000

/-- White space, or an ASCII separator. -/
def isBlank (c : Char) : Bool := isSpace c || (28 ≤ c.toNat && c.toNat ≤ 31)

/-- Drops the characters of a class at both ends. -/
def trimBy (drop : Char → Bool) (cs : List Char) : List Char :=
  ((cs.dropWhile drop).reverse.dropWhile drop).reverse

/-- Drops blanks at both ends. -/
def trimChars (cs : List Char) : List Char := trimBy isBlank cs

/-- Drops blanks at both ends of a text. -/
def trim (s : String) : String := String.ofList (trimChars s.toList)

/-- The first run of characters that are not blank. -/
def firstWord (s : String) : String :=
  String.ofList ((s.toList.dropWhile isBlank).takeWhile fun c => !isBlank c)

end SqlWeave.Text
