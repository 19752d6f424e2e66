/-!
# Sets of characters as ranges

A property of characters beyond ASCII is data of the Unicode standard: a list of closed ranges of
code points.
-/

namespace SqlWeave.Text

/-- Closed ranges of code points. -/
abbrev Ranges := List (Nat × Nat)

/-- Does one of the ranges hold the code point? -/
def Ranges.holds (table : Ranges) (code : Nat) : Bool :=
  table.any fun r => r.1 ≤ code && code ≤ r.2

end SqlWeave.Text
