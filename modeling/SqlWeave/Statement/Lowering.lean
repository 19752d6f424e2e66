import SqlWeave.Statement.Call
import SqlWeave.Statement.Update

/-!
# Lowering

A statement is lowered to SQL text with named references, and to the values of those names. The
text is the comment, the WITH block and the statement itself; the values are those of the WITH
block's statements, then the builder's own, then those that come from its rows or assignments.
-/

namespace SqlWeave

namespace Draft

/-- The path of the table that the statement is about. -/
def mainTable (cat : Catalog) (d : Draft) : Result Value := do
  match d.main with
  | none => throw .mainAliasUnset
  | some a => match ← a.entity with
    | some e => return .text (cat.dialect.tableName e.table e.schema e.database)
    | none => return a.path.orElse a.name

/-- The table that the statement is about, quoted. -/
def quotedTable (cat : Catalog) (d : Draft) : Result String := do
  cat.dialect.tablePathValue (← d.mainTable cat)

/-! ## The parts that several kinds of statements share -/

/-- The text of a comment without the marks that would end it. -/
def withoutCommentEnd : List Char → List Char
  | [] => []
  | '*' :: '/' :: rest => withoutCommentEnd rest
  | c :: rest => c :: withoutCommentEnd rest

def commentText (d : Draft) : Result String :=
  if !d.comment.truth then .ok ""
  else (Dialect.nameText d.comment).map fun c =>
    "/* " ++ String.ofList (withoutCommentEnd c.toList) ++ " */ "

/-- The condition that hides deleted rows from a SELECT. -/
def softDelete (dialect : Dialect) (d : Draft) : Result (Option String) := do
  if d.withDeleted then return none
  match (← d.entity).bind (·.deleteDate?) with
  | some c => return some ((← d.columnReference dialect c.property) ++ " IS NULL")
  | none => return none

/-- The WHERE part, with a guard that holds for every row. -/
def whereText (d : Draft) (guard : Option String) : String :=
  let stated := Condition.renderLevel d.wheres
  match guard with
  | none => if stated = "" then "" else " WHERE " ++ stated
  | some g => if stated = "" then " WHERE " ++ g else " WHERE ( " ++ stated ++ " ) AND ( " ++ g ++ " )"

/-- The columns to hand back, as SQL. -/
def returningColumns (cat : Catalog) (kind : StatementKind) (d : Draft) : Option Returning → Result String
  | none => .ok ""
  | some (.text sql) => .ok (if sql.truth then sql.display else "")
  | some (.columns names) => do
    match ← d.entity with
    | none => Value.joined ", " names
    | some e =>
      let mark := if cat.dialect.capabilities.returningStyle = .output then
        if kind = .delete then "DELETED." else "INSERTED." else ""
      let columns ← names.mapM fun n => match n.text? with
        | some property => .ok (cat.dialect.escape (e.columnName property))
        | none => cat.dialect.escapeValue n
      return String.intercalate ", " (columns.map fun c => mark ++ c)

/-- What the statement hands back. -/
def returned (cat : Catalog) (kind : StatementKind) (d : Draft) : Result String := do
  d.returningColumns cat kind (← if kind = .insert then Insert.returning cat d else pure d.returning)

/-- The clause that hands rows back, in the place where dialects of one style write it. -/
def returningClause (cat : Catalog) (kind : StatementKind) (d : Draft) (style : ReturningStyle) :
    Result String := do
  if cat.dialect.capabilities.returningStyle ≠ style then return ""
  let columns ← d.returned cat kind
  if columns = "" then return ""
  return match style with
    | .output => " OUTPUT " ++ columns
    | .returning => " RETURNING " ++ columns
    | .none => ""

/-! ## The four kinds of statements -/

/-- A selected expression. One without a name has to be text itself. -/
def selection (dialect : Dialect) (s : Selection) : Result Value :=
  if s.name.truth then
    (dialect.escapeValue s.name).map fun name => .text (s.expression.display ++ " AS " ++ name)
  else .ok s.expression

def selectedText (dialect : Dialect) (d : Draft) : Result String := do
  if d.selects.isEmpty then return "*"
  Value.joined ", " (← d.selects.mapM (selection dialect))

def fromText (cat : Catalog) (d : Draft) : Result String := do
  match d.main with
  | none => return ""
  | some a => return " FROM " ++ (← d.quotedTable cat) ++ " " ++ (← cat.dialect.escapeValue a.name)

def orderText (d : Draft) : String :=
  if d.orderBys.isEmpty then ""
  else " ORDER BY " ++ String.intercalate ", " (d.orderBys.map fun p =>
    p.1.display ++ " " ++ p.2.direction.word ++ (match p.2.nulls with
      | some n => " " ++ n.word
      | none => ""))

def selectText (cat : Catalog) (d : Draft) : Result String := do
  let selected ← d.selectedText cat.dialect
  let source ← d.fromText cat
  let hidden ← d.softDelete cat.dialect
  return "SELECT " ++ selected ++ source ++ d.whereText hidden ++ d.orderText ++
    cat.dialect.paging d.limit d.offset (!d.orderBys.isEmpty)

def deleteText (cat : Catalog) (d : Draft) : Result String := do
  let table ← d.quotedTable cat
  let output ← d.returningClause cat .delete .output
  let returning ← d.returningClause cat .delete .returning
  return "DELETE FROM " ++ table ++ output ++ d.whereText none ++ returning

def updateText (cat : Catalog) (d : Draft) : Result String := do
  let items ← Update.assignments cat.dialect d
  if items.isEmpty then
    throw (Failure.validation ("Cannot perform update query because update values are not defined. " ++
      "Call \"qb.set(...)\" method to specify updated values.") (.text "values"))
  let assigned ← Update.render cat.dialect 0 items
  let table ← d.quotedTable cat
  let output ← d.returningClause cat .update .output
  let returning ← d.returningClause cat .update .returning
  return "UPDATE " ++ table ++ " SET " ++ String.intercalate ", " assigned ++ output ++
    d.whereText none ++ returning

/-- The words an INSERT begins with. -/
def insertLead : Option IgnoreStyle → String
  | some .orIgnore => "INSERT OR IGNORE INTO"
  | some .ignore => "INSERT IGNORE INTO"
  | _ => "INSERT INTO"

/-- The column list and the tuples of an INSERT; without columns what the dialect writes instead. -/
def insertedText (cat : Catalog) (d : Draft) : Result (String × String) := do
  let rows ← d.valueSets
  let columns ← if rows.isEmpty then pure [] else Insert.columns d rows
  if columns.isEmpty then return ("", cat.dialect.capabilities.emptyInsertExpression)
  let names ← columns.mapM fun c => cat.dialect.escapeValue c.name
  let tuples ← Insert.tuples cat.dialect 0 columns rows
  return ("(" ++ String.intercalate ", " names ++ ")", "VALUES " ++ String.intercalate ", " tuples)

def insertText (cat : Catalog) (d : Draft) : Result String := do
  let table ← d.quotedTable cat
  let ignore := if d.onIgnore.truth then cat.dialect.capabilities.insertIgnore else none
  let (columnText, valueText) ← d.insertedText cat
  let output ← d.returningClause cat .insert .output
  let returning ← d.returningClause cat .insert .returning
  return insertLead ignore ++ " " ++ table ++ columnText ++ output ++ " " ++ valueText ++
    (if ignore = some .onConflict then " ON CONFLICT DO NOTHING" else "") ++ returning

/-- The statement without its comment and its WITH block. -/
def statementText (cat : Catalog) (d : Draft) : StatementKind → Result String
  | .select => d.selectText cat
  | .insert => d.insertText cat
  | .update => d.updateText cat
  | .delete => d.deleteText cat

/-- The values that come from the rows or the assignments. -/
def statementParameters (cat : Catalog) (d : Draft) : StatementKind → Result Bindings
  | .insert => Insert.parameters d
  | .update => Update.parameters cat.dialect d
  | .select | .delete => .ok []

end Draft

/-! ## The WITH block -/

namespace Cte

variable {σ : Type}

/-- What stands in an entry of the WITH block before the text it stands for. -/
def head (dialect : Dialect) (c : Cte σ) : Result String := do
  let name ← dialect.escapeValue c.name
  let columns ← (c.columns.getD []).mapM dialect.escapeValue
  return name ++
    (if columns.isEmpty then "" else "(" ++ String.intercalate ", " columns ++ ")") ++ " AS " ++
    (if c.materialized.isNull || !dialect.capabilities.cte.materializedHint then ""
      else if c.materialized.truth then "MATERIALIZED " else "NOT MATERIALIZED ") ++ "("

/-- An entry of the WITH block around the text it stands for. -/
def render (dialect : Dialect) (c : Cte σ) (sql : String) : Result String := do
  return (← c.head dialect) ++ sql ++ ")"

/-- The WITH block around its entries. -/
def block (dialect : Dialect) (ctes : List (Cte σ)) (entries : List String) : String :=
  if ctes.isEmpty then ""
  else "WITH " ++
    (if dialect.capabilities.cte.requiresRecursiveHint && ctes.any (·.recursive.truth) then "RECURSIVE " else "") ++
    String.intercalate ", " entries ++ " "

end Cte

namespace Statement

mutual
/-- The SQL text of a statement, with named references. -/
def query (cat : Catalog) : Statement → Result String
  | .endless => .error .endless
  | .of ⟨kind, draft, ctes⟩ => do
    let comment ← draft.commentText
    let entries ← entryTexts cat ctes
    let own ← draft.statementText cat kind
    .ok (Text.trim (comment ++ Cte.block cat.dialect ctes entries ++ own))

/-- The entries of a WITH block as SQL. -/
def entryTexts (cat : Catalog) : List (Cte Statement) → Result (List String)
  | [] => .ok []
  | ⟨source, name, columns, recursive, materialized⟩ :: rest => do
    let sql ← match source with
      | .value sql => .ok sql.display
      | .statement s => query cat s
    let here ← (⟨source, name, columns, recursive, materialized⟩ : Cte Statement).render cat.dialect sql
    let more ← entryTexts cat rest
    .ok (here :: more)
end

mutual
/-- The values that the statement's text refers to, by name. -/
def parameters (cat : Catalog) : Statement → Result Bindings
  | .endless => .error .endless
  | .of ⟨kind, draft, ctes⟩ => do
    let inherited ← entryParameters cat ctes
    let own ← draft.statementParameters cat kind
    .ok (Assoc.merge (Assoc.merge inherited draft.parameters) own)

/-- The values that the entries of a WITH block refer to; a later entry wins. -/
def entryParameters (cat : Catalog) : List (Cte Statement) → Result Bindings
  | [] => .ok []
  | ⟨source, _, _, _, _⟩ :: rest => do
    let here ← match source with
      | .value _ => .ok []
      | .statement s => parameters cat s
    let more ← entryParameters cat rest
    .ok (Assoc.merge here more)
end

/-- The statement as it is sent: the text with positional placeholders, and the values in the order
of the placeholders. -/
def bound (cat : Catalog) (s : Statement) : Result (String × List Value) := do
  let sql ← s.query cat
  let names ← s.parameters cat
  cat.dialect.bindReferences sql names

end Statement

end SqlWeave
