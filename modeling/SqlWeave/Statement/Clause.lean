import SqlWeave.Text.Blank

/-!
# WHERE clauses

A level of conditions is a list of clauses, each with the connector that stands before it. A
condition is SQL text or a group, which holds a level of its own and may be negated.
-/

namespace SqlWeave

/-- What stands before a condition: the first of a level stands bare. -/
inductive Connector where
  | simple | and | or
  deriving DecidableEq, Inhabited

def Connector.all : List Connector := [.simple, .and, .or]

def Connector.word : Connector → String
  | .simple => "simple"
  | .and => "and"
  | .or => "or"

inductive Condition where
  | text (sql : String)
  | group (negated : Bool) (clauses : List (Connector × Condition))
  deriving Inhabited

/-- A condition and the connector before it. -/
abbrev Clause := Connector × Condition

namespace Condition

/-- Nothing to add: an empty text, or a group without clauses. -/
def isEmpty : Condition → Bool
  | .text sql => sql = ""
  | .group _ clauses => clauses.isEmpty

/-- The connector as it is written; the first clause of a level has none. -/
def joiner (first : Bool) : Connector → String
  | .simple => ""
  | .and => if first then "" else "AND "
  | .or => if first then "" else "OR "

mutual
/-- A condition as SQL. -/
def render : Condition → String
  | .text sql => sql
  | .group negated clauses =>
    (if negated then "NOT(" else "(") ++
      Text.trim (String.intercalate " " (renderClauses true clauses)) ++ ")"

/-- The clauses of a level as SQL; `first` says whether the first of the level is among them. -/
def renderClauses (first : Bool) : List (Connector × Condition) → List String
  | [] => []
  | (link, c) :: rest => (joiner first link ++ render c) :: renderClauses false rest
end

/-- A level of conditions as SQL. -/
def renderLevel (clauses : List Clause) : String :=
  Text.trim (String.intercalate " " (renderClauses true clauses))

end Condition

end SqlWeave
