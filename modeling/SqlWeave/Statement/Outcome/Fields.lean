import SqlWeave.Statement.Outcome

/-!
# Outcomes as fields

An outcome has a class name and named fields. It is read from fields that convert, and written back
without those that are absent; the nulls inside of a field stay.
-/

namespace SqlWeave

/-- What executing a statement gives. -/
inductive Outcome where
  | rows (rows : List Record)
  | query (o : QueryOutcome)
  | deleted (o : DeleteOutcome)
  | updated (o : UpdateOutcome)
  | inserted (o : InsertOutcome)
  deriving Inhabited

namespace Outcome

/-- The field of a count of touched rows. -/
def affectedField (n : Option Int) : String × Value := ("affected", .ofInt? n)

/-- A record that may be unknown. -/
def recordValue? : Option Record → Value
  | some m => .record m
  | none => .null

/-- The class name and the fields of an outcome; a list of rows has none. -/
def fields : Outcome → Option (String × Record)
  | .rows _ => none
  | .query q => some ("QueryResult",
    [("records", .list (q.records.map .record)), ("raw", q.raw), affectedField q.affected])
  | .deleted o => some ("DeleteResult", [("raw", o.raw), affectedField o.affected])
  | .updated o => some ("UpdateResult",
    [("raw", o.raw), affectedField o.affected, ("generated_maps", .list (o.generatedMaps.map .record))])
  | .inserted o => some ("InsertResult",
    [("identifiers", .list (o.identifiers.map recordValue?)),
      ("generated_maps", .list (o.generatedMaps.map .record)), ("raw", o.raw)])

/-- An outcome as an object that callers hold. -/
def toValue (o : Outcome) : Value :=
  match o, o.fields with
  | .rows items, _ => .list (items.map .record)
  | _, some (className, fields) => .model className fields
  | _, none => .null

/-- An outcome as a record, without the fields that are absent. -/
def toRecord (o : Outcome) : Value := o.toValue.reduced

open SqlWeave.Field in
/-- Reads an outcome of a class from its fields; fields of other names are ignored. -/
def read (className : String) (given : Record) : Result Outcome :=
  match className with
  | "QueryResult" => Gather.run do
    let records ← gatherEach given "records" record
    let raw ← gather given "raw" (some .null) any
    let affected ← gather given "affected" (some none) (optional int)
    return .query { records, raw, affected }
  | "DeleteResult" => Gather.run do
    let raw ← gather given "raw" (some .null) any
    let affected ← gather given "affected" (some none) (optional int)
    return .deleted { raw, affected }
  | "UpdateResult" => Gather.run do
    let raw ← gather given "raw" (some .null) any
    let affected ← gather given "affected" (some none) (optional int)
    let generatedMaps ← gatherEach given "generated_maps" record
    return .updated { raw, affected, generatedMaps }
  | "InsertResult" => Gather.run do
    let identifiers ← gatherEach given "identifiers" (optional record)
    let generatedMaps ← gatherEach given "generated_maps" record
    let raw ← gather given "raw" (some .null) any
    return .inserted { identifiers, generatedMaps, raw }
  | _ => .error .noMember

/-- The outcome of a class that an answer makes. -/
def ofQuery (className : String) (q : QueryOutcome) : Result Outcome :=
  match className with
  | "DeleteResult" => .ok (.deleted (.ofQuery q))
  | "UpdateResult" => .ok (.updated (.ofQuery q))
  | _ => .error .noMember

/-- Gives a field of a model a new value: models never change. A name that begins with an underscore
is no field and changes nothing. -/
def assign (name : String) : Result Unit :=
  if name.toList.head? = some '_' then .ok () else .error (.invalid [⟨[name], "frozen_instance"⟩])

end Outcome

namespace Generated

/-- The part of an answer that is asked for. -/
def answerPart (answer : Value) (name : String) : Result Value :=
  match answer.attribute? name with
  | some v => .ok v
  | none => .error .noMember

/-- The records of an answer. -/
def recordsOf (answer : Value) : Result (List Record) := do
  match (← answerPart answer "records").elements? with
  | some items => return items.filterMap Value.record?
  | none => throw .wrongKind

/-- What a dialect reads of a value that stands for an answer: the rows, what the backend said, or
both. No value is an answer without either. -/
def readAnswer (dialect : Dialect) (answer : Value) : Result QueryOutcome := do
  if answer.isNull then return {}
  match dialect with
  | .postgres | .mssql => return { records := ← recordsOf answer }
  | .mysql | .mariadb =>
    let records ← recordsOf answer
    if !records.isEmpty then return { records }
    return { raw := ← answerPart answer "raw" }
  | .sqlite | .sqljs => return { raw := ← answerPart answer "raw" }

end Generated

end SqlWeave
