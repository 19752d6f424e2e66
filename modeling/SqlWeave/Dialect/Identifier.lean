import SqlWeave.Dialect
import SqlWeave.Failure

/-!
# Quoted identifiers and table paths

A name stands between quote characters, and a quote character inside it is written twice. A table
path is its segments joined by dots; each segment that is not empty is quoted.
-/

namespace SqlWeave.Dialect

/-- The character identifiers are quoted with. -/
def quoteChar : Dialect → Char
  | .mysql | .mariadb => '\x60'
  | _ => '"'

/-- Writes each quote character twice. -/
def doubled (quote : Char) (name : List Char) : List Char :=
  name.flatMap fun c => if c = quote then [c, c] else [c]

/-- A name as a quoted identifier. -/
def escape (d : Dialect) (name : String) : String :=
  String.ofList (d.quoteChar :: doubled d.quoteChar name.toList ++ [d.quoteChar])

/-- The segments of a dotted path. -/
def segments : List Char → List (List Char)
  | [] => [[]]
  | c :: rest =>
    if c = '.' then [] :: segments rest
    else match segments rest with
      | [] => [[c]]
      | s :: more => (c :: s) :: more

/-- A dotted path with every segment quoted that is not empty. -/
def tablePath (d : Dialect) (path : String) : String :=
  String.intercalate "." ((segments path.toList).map fun s =>
    if s.isEmpty then "" else d.escape (String.ofList s))

/-- The parts of a table's path that the dialect writes: of its database and schema those that go in
front. Where the table stands alone there are none. -/
def pathParts {α : Type} (d : Dialect) (table schema database : α) : Option (List α) :=
  match d with
  | .postgres => some [schema, table]
  | .mysql | .mariadb => some [database, table]
  | .mssql => some [database, schema, table]
  | .sqlite | .sqljs => none

/-- The path of a table. -/
def tableName (d : Dialect) (table : String) (schema database : Option String) : String :=
  match d.pathParts (some table) schema database with
  | some parts => String.intercalate "." ((parts.filterMap id).filter (· ≠ ""))
  | none => table

/-! ## Names that may be anything

A name that is no text cannot be quoted, and one that is bytes is of the wrong kind for it. -/

/-- A text, or the failure of a value that a text is asked of. -/
def nameText (v : Value) : Result String :=
  match v, v.text? with
  | _, some s => .ok s
  | .bytes _, none => .error .wrongKind
  | _, none => .error .noMember

/-- A value as a quoted identifier. -/
def escapeValue (d : Dialect) (name : Value) : Result String := (nameText name).map d.escape

/-- A value as a dotted path with quoted segments. -/
def tablePathValue (d : Dialect) (path : Value) : Result String := (nameText path).map d.tablePath

/-- The path of a table whose parts are values; the parts that count as false are left out. -/
def tableNameValue (d : Dialect) (table schema database : Value) : Result Value :=
  match d.pathParts table schema database with
  | some parts => (Value.joined "." (parts.filter Value.truth)).map .text
  | none => .ok table

end SqlWeave.Dialect
