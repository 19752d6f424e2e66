import SqlWeave.Statement.Draft
import SqlWeave.Text.Holds

/-!
# The rows of an INSERT

An INSERT writes one tuple for each row and one cell for each column. With an entity behind the
statement the columns are the entity's, as far as a row gives them or the database expects them;
without one they are those that were asked for, or all keys of the rows in the order of their first
appearance. A cell that holds a value refers to the parameter of its row and column.
-/

namespace SqlWeave

/-- A column of an INSERT: the key of its values, and the entity's column when there is one. -/
structure InsertColumn where
  key : Value
  column : Option Column := none
  deriving Inhabited

namespace InsertColumn

/-- The name in the column list. -/
def name (c : InsertColumn) : Value :=
  match c.column with
  | some column => .text column.database
  | none => c.key

/-- What is written for a row that does not mention the column. -/
def fallback (dialect : Dialect) (c : InsertColumn) : String :=
  let dated := c.column.any fun k => k.isCreateDate || k.isUpdateDate
  if dated then "CURRENT_TIMESTAMP"
  else if c.column.any (·.isVersion) then "1"
  else if dialect.capabilities.defaultKeywordInValues then "DEFAULT" else "NULL"

end InsertColumn

/-- The SQL that a function supplies when it is called without arguments. -/
def Value.supplied : Value → Result String
  | .fragment sql => .ok sql
  | _ => .error .wrongKind

namespace Insert

/-- What a row holds under a key, if anything; only a record holds something so. -/
def held (row key : Value) : Result (Option Value) :=
  match row with
  | .record r => if key.isKey then .ok (key.text?.bind (Assoc.get? r)) else .error .wrongKind
  | _ => .error .noMember

/-- The keys of all rows, each once, in the order of first appearance. -/
def allKeys (names : List Value) : List Value → Result (List Value)
  | [] => .ok names
  | row :: rest => match row.elements? with
    | some keys => allKeys (keys.foldl (fun acc k => if k.isAmong acc then acc else acc ++ [k]) names) rest
    | none => .error .wrongKind

/-- Does a row give a value for the key, and is it there? -/
def gives (key row : Value) : Result Bool := do
  return !(Value.ofOption (← held row key)).isNull

/-- Does a row mention a key? A collection mentions what is in it, and a text what it holds. -/
def mentions (key : String) (row : Value) : Result Bool :=
  match row with
  | .record r => .ok (Assoc.has r key)
  | .list xs | .tuple xs | .set xs => .ok ((Value.text key).isAmong xs)
  | .text s | .keyword _ s => .ok (Text.holds key.toList s.toList)
  | .model .. => .ok false
  | _ => .error .wrongKind

/-- Does some row pass a test? The rows after the first that does are not looked at. -/
def someRow (test : Value → Result Bool) : List Value → Result Bool
  | [] => .ok false
  | row :: rest => do if ← test row then return true else someRow test rest

/-- Is a column of the entity written? One that the database generates only when a row gives it a
value; any other when a row mentions it or it has a value of its own on an insert. -/
def isWritten (rows requested : List Value) (c : Column) : Result Bool := do
  let key : Value := .text c.property
  if !requested.isEmpty && !key.isAmong requested then return false
  let present ← someRow (mentions c.property) rows
  if c.isGenerated then
    if !(← someRow (gives key) rows) then return false
  return present || c.isAutomatic

/-- The columns of the statement. -/
def columns (d : Draft) (rows : List Value) : Result (List InsertColumn) := do
  let requested := d.insertColumns.getD []
  match ← d.entity with
  | none =>
    let keys ← if requested.isEmpty then allKeys [] rows else pure requested
    return keys.map fun key => { key }
  | some e =>
    return (← e.columns.filterM (isWritten rows requested)).map fun c =>
      { key := .text c.property, column := some c }

/-- The parameter of a cell. -/
def cellName (row column : Nat) : String := "i" ++ toString row ++ "_" ++ toString column

/-- A cell as SQL. -/
def cell (dialect : Dialect) (name : String) (c : InsertColumn) : Option Value → Result String
  | none => .ok (c.fallback dialect)
  | some .null => .ok "NULL"
  | some v => if v.isCallable then v.supplied else .ok (":" ++ name)

/-- The cells of a row from column number `j` on. -/
def cells (dialect : Dialect) (i j : Nat) (row : Value) : List InsertColumn → Result (List String)
  | [] => .ok []
  | c :: rest => do
    let here ← cell dialect (cellName i j) c (← held row c.key)
    let more ← cells dialect i (j + 1) row rest
    .ok (here :: more)

/-- The tuples of the rows from row number `i` on. -/
def tuples (dialect : Dialect) (i : Nat) (cols : List InsertColumn) : List Value → Result (List String)
  | [] => .ok []
  | row :: rest => do
    let here ← cells dialect i 0 row cols
    let more ← tuples dialect (i + 1) cols rest
    .ok (("(" ++ String.intercalate ", " here ++ ")") :: more)

/-- The values that the cells of a row refer to. -/
def cellParameters (i j : Nat) (row : Value) : List InsertColumn → Result Bindings
  | [] => .ok []
  | c :: rest => do
    let v := Value.ofOption (← held row c.key)
    let more ← cellParameters i (j + 1) row rest
    .ok (if v.isNull || v.isCallable then more else (cellName i j, v) :: more)

/-- The values that the tuples from row number `i` on refer to. -/
def rowParameters (i : Nat) (cols : List InsertColumn) : List Value → Result Bindings
  | [] => .ok []
  | row :: rest => do
    let here ← cellParameters i 0 row cols
    let more ← rowParameters (i + 1) cols rest
    .ok (here ++ more)

/-- The values that the statement refers to. -/
def parameters (d : Draft) : Result Bindings := do
  let rows ← d.valueSets
  rowParameters 0 (← columns d rows) rows

/-- The columns that an INSERT hands back when none were asked for: keys and values that the
database makes. -/
def generatedNames (e : Entity) : List String :=
  (e.columns.filter fun c => c.isPrimary || c.isGenerated || c.isAutomatic).foldl
    (fun names c => if names.contains c.property then names else names ++ [c.property]) []

/-- What an INSERT hands back without being asked: what its entity's rows have that the caller may not
know. -/
def implicitReturning (cat : Catalog) (d : Draft) : Result (Option Returning) := do
  match ← d.entity with
  | none => return none
  | some e =>
    if d.updateEntity.truth && cat.dialect.returns .insert then
      return some (.columns ((generatedNames e).map .text))
    else return none

/-- What an INSERT hands back. -/
def returning (cat : Catalog) (d : Draft) : Result (Option Returning) :=
  match d.returning with
  | some r => if r.isEmpty then implicitReturning cat d else .ok (some r)
  | none => implicitReturning cat d

end Insert

end SqlWeave
