import SqlWeave.Statement.Insert
import SqlWeave.Value.Arithmetic

/-!
# Outcomes

What a backend answers becomes a `QueryOutcome`; a statement turns it into an outcome of its own
kind. An INSERT also finds out which values the database made for each of its rows: from the rows
that the statement hands back, or from the last id that the backend reports.
-/

namespace SqlWeave

/-- The answer to one statement. -/
structure QueryOutcome where
  records : List Record := []
  raw : Value := .null
  affected : Option Int := none
  deriving Inhabited

structure DeleteOutcome where
  raw : Value := .null
  affected : Option Int := none
  deriving Inhabited

structure UpdateOutcome where
  raw : Value := .null
  affected : Option Int := none
  generatedMaps : List Record := []
  deriving Inhabited

structure InsertOutcome where
  /-- The primary key of each row, as far as it is known. -/
  identifiers : List (Option Record) := []
  /-- The values that the database made for each row. -/
  generatedMaps : List Record := []
  raw : Value := .null
  deriving Inhabited

def DeleteOutcome.ofQuery (q : QueryOutcome) : DeleteOutcome := { raw := q.raw, affected := q.affected }

def UpdateOutcome.ofQuery (q : QueryOutcome) : UpdateOutcome :=
  { raw := q.raw, affected := q.affected, generatedMaps := q.records }

/-! ## Values that the database made -/

namespace Generated

/-- A map, unless it is empty. -/
def nonempty (m : Record) : Option Record := if m.isEmpty then none else some m

/-- The generated columns that a returned row holds. -/
def ofRow (row : Record) (columns : List Column) : Record :=
  columns.foldl (fun acc c => match row.get? c.database with
    | some v => acc.put c.property v
    | none => acc) []

/-- The returned row at a place. Places below zero count from the end. -/
def recordAt (records : List Record) (index : Value) : Result (Option Record) :=
  match index, index.int? with
  | .float x, _ =>
    match (Double.compareInt? records.length x).map Ordering.isGE with
    | some false => .ok none
    | _ => .error .wrongKind
  | _, none => .error .wrongKind
  | _, some i =>
    if Int.ofNat records.length ≤ i then .ok none
    else match records[(if i < 0 then i + records.length else i).toNat]? with
      | some row => if i < -Int.ofNat records.length then .error .missingIndex else .ok (some row)
      | none => .error .missingIndex

/-- The values in the returned row at a place. -/
def ofRecords (e : Entity) (records : List Record) (index : Value) : Result (Option Record) := do
  return (← recordAt records index).bind fun row => nonempty (ofRow row e.generatedColumns)

/-- The last id that a backend reports, unless it is none or zero. -/
def lastId (raw : Value) : Value :=
  match raw with
  | .record r =>
    let v := (Assoc.get? r "last_insert_id").getD .null
    if v.truth then v else .null
  | _ => .null

/-- The id of the row at a place, when the id that is known belongs to the last of `count` rows. -/
def idFromLast (id index count : Value) : Result Value := do
  (← (← id.minus count).plus index).plus (.int 1)

/-- The same id under every one of some columns. -/
def underAll (columns : List Column) (v : Value) : Record :=
  columns.foldl (fun acc c => acc.put c.property v) []

/-- Is the column's value counted up by the table? -/
def isCounted (c : Column) : Bool := c.generation = some .increment || c.generation = some .rowid

/-- The generated values of the row at a place among `count`, where the dialect tells them from the
answer alone. The id of the mysql family belongs to the first row, that of the sqlite family to the
last one. -/
def ofAnswer (dialect : Dialect) (e : Entity) (answer : QueryOutcome) (index count : Value) :
    Result (Option Record) := do
  let id := lastId answer.raw
  match dialect with
  | .postgres | .mssql => ofRecords e answer.records index
  | .mysql | .mariadb =>
    if !answer.records.isEmpty then ofRecords e answer.records index
    else
      let columns := e.generatedColumns.filter fun c => c.generation = some .increment
      if id.isNull || columns.isEmpty then return none
      return nonempty (underAll columns (← id.plus index))
  | .sqlite | .sqljs =>
    if id.isNull then return none
    let v ← idFromLast id index count
    return nonempty (underAll (e.primaryColumns.filter fun c => c.isGenerated && isCounted c) v)

/-- The rows whose generated values are known. Returned rows always are. An id that the backend
reports stands for all rows only when all were inserted and none brought its own key; otherwise it
stands for the last row at most. -/
def knownRows (dialect : Dialect) (d : Draft) (e : Entity) (answer : QueryOutcome)
    (rows : List Value) : Result (List Nat) := do
  let everyRow := List.range rows.length
  if !answer.records.isEmpty || !dialect.reportsLastId then return everyRow
  let keys := (e.generatedColumns.filter (·.isPrimary)).map fun c => Value.text c.property
  let supplied ← rows.mapM fun row => Insert.someRow (fun key => Insert.gives key row) keys
  let count := Int.ofNat rows.length
  let allInserted := answer.affected = some count || (!d.onIgnore.truth && answer.affected = none)
  if !supplied.any id && allInserted then return everyRow
  if dialect.lastIdIsFinalRow && allInserted && !(supplied.getLast?.getD true) then
    return [rows.length - 1]
  return []

/-- A row with the generated values that fill what it leaves open. Only a record can be filled. -/
def filled (row : Value) (generated : Record) : Result Record := do
  let open? ← generated.filterM fun p => do return !(← Insert.gives (.text p.1) row)
  match row with
  | .record r => return Assoc.merge r open?
  | _ => throw .wrongKind

/-- The outcome of each row from number `index` on: its generated values, and its key. -/
def rowOutcomes {m : Type → Type} [Monad m] [MonadExceptOf Failure m] (e : Entity) (isKnown : Nat → Bool)
    (generate : Nat → m (Option Record)) (index : Nat) :
    List Value → m (List (Record × Option Record))
  | [] => pure []
  | row :: rest => do
    let generated ← if isKnown index then generate index else pure none
    let generated := generated.getD []
    let key ← match filled row generated with
      | .ok r => pure (e.keyMap (.record r))
      | .error f => throwThe Failure f
    let more ← rowOutcomes e isKnown generate (index + 1) rest
    pure ((generated, key) :: more)

/-- The outcome of an INSERT; `generate` tells the generated values of a row. -/
def insertOutcome {m : Type → Type} [Monad m] [MonadExceptOf Failure m] (dialect : Dialect) (d : Draft)
    (e : Option Entity) (rows : List Value) (answer : QueryOutcome) (generate : Nat → m (Option Record)) :
    m InsertOutcome := do
  match e with
  | none => pure { raw := answer.raw }
  | some e =>
    let known ← match knownRows dialect d e answer rows with
      | .ok known => pure known
      | .error f => throwThe Failure f
    let outcomes ← rowOutcomes e (fun i => d.updateEntity.truth && known.contains i) generate 0 rows
    pure
      { identifiers := outcomes.map Prod.snd, generatedMaps := outcomes.map Prod.fst, raw := answer.raw }

end Generated

end SqlWeave
