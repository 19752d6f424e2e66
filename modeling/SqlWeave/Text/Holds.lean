/-!
# Texts within texts
-/

namespace SqlWeave.Text

/-- Does a text hold another one? -/
def holds (part : List Char) : List Char → Bool
  | [] => part.isEmpty
  | c :: cs => part.isPrefixOf (c :: cs) || holds part cs

end SqlWeave.Text
