import SqlWeave.Number.Whole
import SqlWeave.Session.Object
import SqlWeave.Session.Source
import SqlWeave.Statement.Outcome.Fields

/-!
# Executing a built statement

A builder that a caller holds may refer to other builders in its WITH block; it is executed as the
tree of statements that they make at that time. The statement is lowered before anything else
happens, so a statement that cannot be lowered touches nothing.
-/

namespace SqlWeave

namespace World

/-- The statement that a builder makes together with those it refers to; `fuel` bounds how deep they
refer to each other. -/
def statementAt (w : World) : (fuel : Nat) → Builder Nat → Statement
  | 0, _ => .endless
  | fuel + 1, b => .of
    { kind := b.kind
      draft := b.draft
      ctes := b.ctes.map fun c =>
        { source := match c.source with
            | .value sql => .value sql
            | .statement id => .statement (w.statementAt fuel (w.builders.get id).builder)
          name := c.name
          columns := c.columns
          recursive := c.recursive
          materialized := c.materialized } }

/-- The statement that a builder makes. A chain longer than the number of builders comes back to
itself. -/
def statement (w : World) (b : Builder Nat) : Statement := w.statementAt (w.builders.next + 1) b

end World

namespace Session

/-- The text of a builder's statement, with named references. -/
def queryText (b : Builder Nat) : Session String := do
  let w ← get
  ofResult ((w.statement b).query w.catalog)

/-- The statement as it is sent, and its values. -/
def queryBound (b : Builder Nat) : Session (String × List Value) := do
  let w ← get
  ofResult ((w.statement b).bound w.catalog)

/-! ## Generated values -/

/-- Asks the native database for the last row id; a failure is logged and leaves no answer. -/
def askRowId : Session (Option (List Value)) := do
  let sql := "SELECT last_insert_rowid()"
  let fields := [("db.statement", Value.text sql), ← sourceField]
  log .debug "quarry.driver.sqljs.driver" "Executing query" fields
  let failed (text : String) : Session (Option (List Value)) := do
    log .error "quarry.driver.sqljs.driver" "Query failed" (fields ++ [("error", .text text)]) true
    return none
  match (← get).live with
  | none => failed "'NoneType' object has no attribute 'execute'"
  | some n =>
    match ← attempt (nativeExecute n sql) with
    | .ok _ => fetchRowId
    | .error f => failed f.text

/-- The values of generated columns that are looked up one by one. -/
def lookUpIds (index count : Value) : List Column → Session Record
  | [] => return []
  | c :: rest => do
    let row ← askRowId
    let here : Record ← match row with
      | none => pure []
      | some [] => throw .missingIndex
      | some (.null :: _) => pure []
      | some (id :: _) => do
        let v ← ofResult (Generated.idFromLast id index count)
        pure [(c.property, v)]
    let more ← lookUpIds index count rest
    return Assoc.merge here more

/-- The generated values of the row at a place among `count`. -/
def generatedMap (e : Entity) (answer : QueryOutcome) (index count : Value) :
    Session (Option Record) := do
  match (← get).dialect with
  | .sqljs =>
    let columns := e.generatedColumns.filter fun c => c.isPrimary && c.generation = some .increment
    return Generated.nonempty (← lookUpIds index count columns)
  | dialect => ofResult (Generated.ofAnswer dialect e answer index count)

/-! ## Execution -/

/-- The hooks around a statement of a kind. -/
def hooksOf : StatementKind → Option (Hook × Hook)
  | .select => none
  | .insert => some (.beforeInsert, .afterInsert)
  | .update => some (.beforeUpdate, .afterUpdate)
  | .delete => some (.beforeRemove, .afterRemove)

/-- What subscribers are told about: the rows to insert, or the values to set. -/
def payloadsOf (b : Builder Nat) : Result (List Value) :=
  match b.kind with
  | .insert => b.draft.valueSets
  | .update => .ok [b.draft.assigned]
  | .select | .delete => .ok []

/-- The outcome of a statement. -/
def outcomeOf (b : Builder Nat) (answer : QueryOutcome) : Session Outcome := do
  match b.kind with
  | .select => return .rows answer.records
  | .delete => return .deleted (.ofQuery answer)
  | .update => return .updated (.ofQuery answer)
  | .insert =>
    let e ← ofResult b.draft.entity
    let rows ← ofResult b.draft.valueSets
    let generate (i : Nat) : Session (Option Record) := match e with
      | some e => generatedMap e answer (.int i) (.int rows.length)
      | none => pure none
    return .inserted (← Generated.insertOutcome (← get).dialect b.draft e rows answer generate)

/-- Tells subscribers about a statement, when it has an entity and they are to be told. -/
def announce (b : Builder Nat) (h : Option Hook) (payloads : List Value) : Session Unit := do
  match h, b.draft.main.bind (·.subject) with
  | some h, some subject => if b.draft.callListeners.truth then broadcast h (some subject) payloads
  | _, _ => pure ()

/-- The runner that is given for a statement, or one that is obtained. -/
def obtainRunner (given : Value) : Session Value := do
  if given.truth then return given
  object (.runner (← createRunner))

/-- The steps of a builder's statement on runner `r`. -/
def stepsOf (b : Builder Nat) (payloads : List Value) (r : Nat) (sql : String) (values : List Value) :
    Execution.Steps (ExceptT Failure (StateM World)) QueryOutcome Outcome where
  before := announce b ((hooksOf b.kind).map Prod.fst) payloads
  query := query r (.text sql) (.list values)
  result := outcomeOf b
  after := announce b ((hooksOf b.kind).map Prod.snd) payloads

/-- Notes that rolling back failed, too. -/
def noteRollback (f : Failure) : Session Unit := do
  log .warning "quarry.query_builder.base" "Rollback after failed statement also failed"
    [← sourceField, ("error", .text f.text)]

/-- Executes a builder's statement on the runner that is given, or on one that is obtained and given
back. -/
def execute (b : Builder Nat) (given : Value) : Session Outcome := do
  let payloads ← ofResult (payloadsOf b)
  let (sql, values) ← queryBound b
  match (← obtainRunner given).handle? with
  | some (.runner r) =>
    Execution.statement (runnerOps r) b.draft.useTransaction.truth (!given.truth) noteRollback
      (stepsOf b payloads r sql values)
  | _ => throw .noMember

/-- Executes a SELECT and gives its rows. -/
def executeRows (b : Builder Nat) (given : Value) : Session (List Record) := do
  match ← execute b given with
  | .rows rows => return rows
  | _ => return []

/-- Counts the rows that a SELECT gives, without its order and its window. -/
def count (b : Builder Nat) (given : Value) : Session Int := do
  let copy := b.convert b.kind
  let draft :=
    { copy.draft with
      selects := [{ expression := .text "COUNT(*)", name := .text "cnt" }]
      orderBys := []
      limit := none
      offset := none }
  match ← executeRows { copy with draft } given with
  | [] | [] :: _ => return 0
  | row :: _ =>
    match row.get? "cnt" with
    | some v => ofResult (Number.whole v)
    | none => throw .missingKey

end Session

end SqlWeave
