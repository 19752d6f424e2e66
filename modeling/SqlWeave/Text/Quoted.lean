import SqlWeave.Text.Printable

/-!
# Quoted displays

A text is displayed between single quotes, or between double quotes when it holds a single quote
and no double one. The quote and the backslash are escaped, and so is every character that is not
printable. Bytes are displayed in the same way after a `b`.
-/

namespace SqlWeave.Text

/-- `n` in lower-case hexadecimal digits, at least `width` of them. -/
def hex (width n : Nat) : String :=
  let ds := Nat.toDigits 16 n
  String.ofList (List.replicate (width - ds.length) '0' ++ ds)

/-- The quote that a display of these characters stands between. -/
def quoteMark (cs : List Char) : Char :=
  if cs.contains '\'' && !cs.contains '"' then '"' else '\''

/-- A character inside a display with the given quote. -/
def escapeChar (quote c : Char) : String :=
  if c = quote || c = '\\' then String.ofList ['\\', c]
  else if c = '\n' then "\\n"
  else if c = '\r' then "\\r"
  else if c = '\t' then "\\t"
  else if isPrintable c then String.singleton c
  else
    let n := c.toNat
    if n < 0x100 then "\\x" ++ hex 2 n
    else if n < 0x10000 then "\\u" ++ hex 4 n
    else "\\U" ++ hex 8 n

/-- The display of a text. -/
def quoted (s : String) : String :=
  let q := quoteMark s.toList
  String.singleton q ++ String.join (s.toList.map (escapeChar q)) ++ String.singleton q

/-- A byte inside a display with the given quote. -/
def escapeByte (quote : Char) (b : UInt8) : String :=
  let n := b.toNat
  if 0x7f ≤ n then "\\x" ++ hex 2 n else escapeChar quote (Char.ofNat n)

/-- The display of bytes. -/
def quotedBytes (data : List UInt8) : String :=
  let q := quoteMark (data.map fun b => Char.ofNat b.toNat)
  "b" ++ String.singleton q ++ String.join (data.map (escapeByte q)) ++ String.singleton q

end SqlWeave.Text
