import SqlWeave.Session.World

/-!
# Objects that callers hold

A caller holds the objects of a session by reference. `World.object` is the object of a reference:
the name of its class, and how it is displayed at the time. Two references to one object are one
object, whatever was displayed when they were taken.
-/

namespace SqlWeave

/-- The class name that the runners of a dialect are shown under. -/
def Dialect.runnerName : Dialect → String
  | .sqlite => "AbstractSqliteQueryRunner"
  | .sqljs => "SqljsQueryRunner"
  | _ => "QueryRunner"

/-- The class name that the builders of a kind are shown under. -/
def StatementKind.builderName : StatementKind → String
  | .select => "SelectQueryBuilder"
  | .insert => "InsertQueryBuilder"
  | .update => "UpdateQueryBuilder"
  | .delete => "DeleteQueryBuilder"

namespace World

/-- The text that the data source is displayed by. -/
def sourceText (w : World) : String :=
  "DataSource(name=" ++ w.sourceName.literal ++ ", type=" ++ w.settings.type.literal ++
    ", initialized=" ++ (Value.bool w.initialized).literal ++ ")"

/-- The text that the driver is displayed by. -/
def driverText (w : World) : String :=
  w.dialect.driverName ++ "(data_source=" ++ w.sourceName.literal ++ ")"

/-- The text that a runner is displayed by. -/
def runnerText (w : World) (x : Runner) : String :=
  w.dialect.runnerName ++ "(driver=" ++ Text.quoted w.dialect.word ++ ", released=" ++
    (Value.bool x.released).literal ++ ")"

/-- An object that is displayed by no more than the name of its class. -/
def plainObject (ref : Handle) (kind : String) : Value :=
  .handle ref kind (.text ("<" ++ kind ++ ">"))

/-- The alias that a reference means. -/
def alias? (w : World) (builder id : Nat) : Option Alias :=
  (w.builders.get builder).builder.draft.scope.get? id

/-- The object of a reference, as it is displayed now. -/
def object (w : World) (ref : Handle) : Value :=
  match ref with
  | .source => .handle ref "DataSource" (.text w.sourceText)
  | .driver => .handle ref w.dialect.driverName (.text w.driverText)
  | .engine => plainObject ref "Engine"
  | .builder id => plainObject ref (w.builders.get id).builder.kind.builderName
  | .draft _ => plainObject ref "ExpressionMap"
  | .tableAlias builder id => match w.alias? builder id with
    | some a => a.toValue builder
    | none => plainObject ref "Alias"
  | .runner r => .handle ref w.dialect.runnerName (.text (w.runnerText (w.runners.get r)))
  | .entity id => match w.entity? id with
    | some e => e.toValue
    | none => plainObject ref "EntityMetadata"
  | .column id i => match w.entity? id with
    | some e => match e.columns[i]? with
      | some c => e.columnValue i c
      | none => plainObject ref "ColumnMetadata"
    | none => plainObject ref "ColumnMetadata"
  | .native _ => plainObject ref "NativeConnection"
  | .connection _ => plainObject ref "Connection"
  | .part _ name => plainObject ref name

/-- A value as it is displayed now. -/
def renewed (w : World) : Value → Value
  | .handle (.part owner name) kind shown => .handle (.part owner name) kind shown
  | .handle ref .. => w.object ref
  | v => v

end World

namespace Session

/-- The object of a reference. -/
def object (ref : Handle) : Session Value := return (← get).object ref

/-- The object of a reference that may be missing. -/
def object? (ref : Option Handle) : Session Value :=
  match ref with
  | some ref => object ref
  | none => pure .null

end Session

end SqlWeave
