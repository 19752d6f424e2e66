import SqlWeave.Session.Method

/-!
# What an object shows

A value that refers to an object says nothing about the state of the object. `World.view` is what an
object shows at one moment: of a builder its kind and the statement it makes, of a runner its mode
and state, of an entity and a column their names. All other objects show no more than their class.
Showing a builder lowers its statement, so it leaves the log records of a lowering.
-/

namespace SqlWeave

/-- The kind of a builder, and the text of its statement. -/
structure Lowered where
  kind : StatementKind
  query : Result String
  deriving Inhabited

inductive View where
  /-- No more than the class. -/
  | member
  | builder (shown : Lowered)
  | runner (mode : Value) (released active : Bool)
  /-- What a builder has said so far, with its main alias and the values that it was given. -/
  | draft (said : Builder Lowered) (main : Value) (values : List Value)
  | tableAlias (name target path role : Value) (hasMetadata : Bool)
  | entity (name : Value) (table : String)
  | column (property database : String)
  deriving Inhabited

namespace World

/-- The statement that a builder makes now. -/
def lowered (w : World) (b : Builder Nat) : Lowered :=
  { kind := b.kind, query := (w.statement b).query w.catalog }

/-- An entry of a WITH block as it is shown. -/
def shownCte (w : World) (c : Cte Nat) : Cte Lowered :=
  { source := match c.source with
      | .value sql => .value sql
      | .statement id => .statement (w.lowered (w.builders.get id).builder)
    name := c.name, columns := c.columns, recursive := c.recursive, materialized := c.materialized }

/-- The values that a draft was given, or none when they cannot be told. -/
def givenValues (d : Draft) : List Value :=
  match d.valueSets with
  | .ok vs => vs
  | .error _ => []

/-- What an object shows now. -/
def view (w : World) : Handle → View
  | .builder id => .builder (w.lowered (w.builders.get id).builder)
  | .runner r =>
    let x := w.runners.get r
    .runner x.mode x.released x.active
  | .draft id =>
    let b := (w.builders.get id).builder
    .draft { kind := b.kind, draft := b.draft, ctes := b.ctes.map w.shownCte }
      (.ofOption (b.draft.main.map (Alias.toValue id))) (givenValues b.draft)
  | .tableAlias b id => match w.alias? b id with
    | some a => .tableAlias a.name
        (match a.target with
          | .ok v => v
          | .error _ => .null) a.path a.role a.subject.isSome
    | none => .member
  | .entity id => match w.entity? id with
    | some e => .entity e.name e.table
    | none => .member
  | .column id i => match (w.entity? id).bind (·.columns[i]?) with
    | some c => .column c.property c.database
    | none => .member
  | _ => .member

end World

namespace Session

/-- Lowers the statement of a builder for the log records alone. -/
def lower (id : Nat) : Session Unit := do
  let _ ← attempt (queryText (← held id).builder)

/-- Prepares what an object shows. A draft whose values cannot be told cannot be shown, and neither can
an alias of what is no entity. -/
def showObject : Handle → Session Unit
  | .builder id => lower id
  | .draft id => do
    let b := (← held id).builder
    let _ ← ofResult (b.draft.main.mapM Alias.target)
    b.ctes.forM fun c => match c.source with
      | .statement id => lower id
      | .value _ => pure ()
    let _ ← ofResult b.draft.valueSets
  | .tableAlias b id => do
    match (← get).alias? b id with
    | some a =>
      let _ ← ofResult a.target
    | none => pure ()
  | _ => pure ()

mutual
/-- Prepares what a value shows, with all of its parts. -/
def showValue : Value → Session Unit
  | .handle ref .. => showObject ref
  | .list vs | .tuple vs | .set vs => showItems vs
  | .record fs | .model _ fs | .object fs => showFields fs
  | .member v => showValue v
  | _ => pure ()

def showItems : List Value → Session Unit
  | [] => pure ()
  | v :: rest => do
    showValue v
    showItems rest

def showFields : List (String × Value) → Session Unit
  | [] => pure ()
  | (_, v) :: rest => do
    showValue v
    showFields rest
end

end Session

end SqlWeave
