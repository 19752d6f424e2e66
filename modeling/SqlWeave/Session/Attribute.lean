import SqlWeave.Session.Execute

/-!
# Attributes

Every kind of object has attributes of its own. An attribute that a caller gave to an object is kept
and read back; some are parts of the object's state and change what it does. What is derived from
other parts cannot be given.
-/

namespace SqlWeave

/-! ## Capabilities -/

/-- The capabilities of a dialect as an object that callers hold. -/
def Capabilities.toValue (c : Capabilities) : Value :=
  .model "DriverCapabilities"
    [("returning_style", .keyword "ReturningStyle" c.returningStyle.word),
      ("returning_statements", .set (c.returningStatements.map fun k => .keyword "QueryType" k.word)),
      ("cte", .model "CteCapabilities"
        [("enabled", .bool c.cte.enabled), ("requires_recursive_hint", .bool c.cte.requiresRecursiveHint),
          ("materialized_hint", .bool c.cte.materializedHint), ("writable", .bool c.cte.writable)]),
      ("default_keyword_in_values", .bool c.defaultKeywordInValues),
      ("empty_insert_expression", .text c.emptyInsertExpression),
      ("insert_ignore", .ofText? (c.insertIgnore.map IgnoreStyle.word))]

/-! ## Entities -/

namespace Entity

/-- The columns that pass a test, as objects that callers hold. -/
def columnValues (e : Entity) (test : Column → Bool) : List Value :=
  (e.columns.zipIdx.filter fun p => test p.1).map fun p => e.columnValue p.2 p.1

/-- An attribute of an entity. -/
def attribute? (e : Entity) (name : String) : Option Value :=
  let first (test : Column → Bool) : Value := .ofOption (e.columnValues test).head?
  match name with
  | "columns" => some (.list (e.columnValues fun _ => true))
  | "primary_columns" => some (.list (e.columnValues (·.isPrimary)))
  | "generated_columns" => some (.list (e.columnValues (·.isGenerated)))
  | "has_multiple_primary_keys" => some (.bool e.hasCompositeKey)
  | "update_date_column" => some (first (·.isUpdateDate))
  | "delete_date_column" => some (first (·.isDeleteDate))
  | "version_column" => some (first (·.isVersion))
  | _ => e.model.attribute? name

end Entity

/-! ## Aliases and drafts -/

/-- An attribute of an alias. -/
def Alias.attribute (a : Alias) (name : String) : Result Value :=
  match name with
  | "has_metadata" => .ok (.bool a.subject.isSome)
  | "target" => a.target
  | _ => match a.model.attribute? name with
    | some v => .ok v
    | none => .error .noMember

/-- An object that has no parts of its own to show. -/
def partOf (owner kind : String) : Value := .handle (.part owner kind) kind (.text ("<" ++ kind ++ ">"))

/-- A part of what builder number `id` has said, by name. -/
def Builder.attribute (b : Builder Nat) (id : Nat) (name : String) : Result Value :=
  let d := b.draft
  let count (n : Option Nat) : Value := .ofInt? (n.map Int.ofNat)
  match name with
  | "query_type" => .ok (.keyword "QueryType" b.kind.word)
  | "main_alias" => .ok (.ofOption (d.main.map (Alias.toValue id)))
  | "aliases" => .ok (.list (d.scope.all.map (Alias.toValue id)))
  | "wheres" => .ok (.list (d.wheres.map fun _ => partOf "draft" "WhereClause"))
  | "common_table_expressions" => .ok (.list (b.ctes.map fun _ => partOf "draft" "CommonTableExpression"))
  | "returning" => .ok (.ofOption (d.returning.map Returning.value))
  | "use_transaction" => .ok d.useTransaction
  | "call_listeners" => .ok d.callListeners
  | "alias_name_prefixing_enabled" => .ok (.bool d.qualified)
  | "parameters" => .ok (.record d.parameters)
  | "parameter_index" => .ok (.int d.parameterIndex)
  | "comment" => .ok d.comment
  | "insert_columns" => .ok (.ofOption (d.insertColumns.map Value.list))
  | "value_set" => .ok d.values
  | "value_sets" => d.valueSets.map .list
  | "on_ignore" => .ok d.onIgnore
  | "update_entity" => .ok d.updateEntity
  | "selects" => .ok (.list (d.selects.map fun s => .tuple [s.expression, s.name]))
  | "order_bys" => .ok (.record (d.orderBys.map fun p => (p.1.display, partOf "draft" "OrderByItem")))
  | "limit" => .ok (count d.limit)
  | "offset" => .ok (count d.offset)
  | "with_deleted" => .ok (.bool d.withDeleted)
  | _ => .error .noMember

namespace Session

/-! ## Reading -/

/-- The builder of a number. -/
def held (id : Nat) : Session HeldBuilder := return (← get).builders.get id

/-- The module that opens native databases, or what the settings name for it. -/
def openingModule (w : World) : Value :=
  let given := w.settings.get "driver"
  if given.isNull then module else given

/-- An attribute of the data source. -/
def sourceAttribute (w : World) (name : String) : Option Value :=
  match name with
  | "name" => some w.sourceName
  | "is_initialized" => some (.bool w.initialized)
  | "driver" => some (w.object .driver)
  | "options" => some (partOf "source" "ConnectionSettings")
  | "subscribers" => some (.list (w.subscribers.zipIdx.map fun p =>
      partOf "source" ("Subscriber" ++ toString p.2)))
  | "entity_metadatas" => some (.list (w.entities.map fun
    | .entity e => e.toValue
    | .other v => v))
  | _ => none

/-- An attribute that only the drivers of servers, or only those of embedded databases, have. -/
def ownDriverAttribute (w : World) (name : String) : Option Value :=
  let given (ref : Option Handle) : Value := .ofOption (ref.map w.object)
  match w.dialect.isNetwork, name with
  | true, "dialect_driver" => some (.text w.dialect.scheme)
  | true, "dbapi_package" => some (.text w.dialect.package)
  | false, "database_connection" => some (given (w.live.map .native))
  | false, "query_runner" => some (given (w.shared.map .runner))
  | false, "sqlite" => some (openingModule w)
  | false, "storage" => if w.dialect = .sqljs then some (partOf "driver" w.storage.className) else none
  | _, _ => none

/-- An attribute of the driver. -/
def driverAttribute (w : World) (name : String) : Option Value :=
  match name with
  | "name" => some (.text w.dialect.word)
  | "database" => some w.database
  | "schema" => some w.schema
  | "is_replicated" => some (.bool false)
  | "capabilities" => some w.dialect.capabilities.toValue
  | "last_insert_id_supported" => some (.bool w.dialect.reportsLastId)
  | "last_insert_id_is_last_row" => some (.bool w.dialect.lastIdIsFinalRow)
  | "data_source" => some (w.object .source)
  | "options" => some (partOf "source" "ConnectionSettings")
  | "engine" => some (.ofOption (w.engine.map fun _ => w.object .engine))
  | _ => ownDriverAttribute w name

/-- An attribute of a runner. -/
def runnerAttribute (w : World) (x : Runner) (name : String) : Option Value :=
  match name with
  | "mode" => some x.mode
  | "is_released" => some (.bool x.released)
  | "is_transaction_active" => some (.bool x.active)
  | "data_source" => some (w.object .source)
  | "driver" => some (w.object .driver)
  | "broadcaster" => some (partOf "runner" "Broadcaster")
  | "_is_dirty" => if w.dialect = .sqljs then some (.bool x.dirty) else none
  | _ => none

/-- An attribute of a builder. -/
def builderAttribute (id : Nat) (name : String) : Session Value := do
  let w ← get
  let h ← held id
  match name with
  | "alias" => match h.builder.draft.main with
    | some a => return a.name
    | none => raise .mainAliasUnset
  | "expression_map" => object (.draft id)
  | "data_source" => object .source
  | "driver" => object .driver
  | "query_runner" => return w.renewed h.runner
  | _ => throw .noMember

/-- What is there, or the failure of what is not. -/
def member : Option Value → Session Value
  | some v => pure v
  | none => throw .noMember

/-- An attribute that the object of a reference has by itself. -/
def ownAttribute (ref : Handle) (name : String) : Session Value := do
  let w ← get
  match ref with
  | .source => member (sourceAttribute w name)
  | .driver => member (driverAttribute w name)
  | .builder id => builderAttribute id name
  | .draft id => ofResult ((← held id).builder.attribute id name)
  | .runner r => member (runnerAttribute w (← runner r) name)
  | .tableAlias b id => match w.alias? b id with
    | some a => ofResult (a.attribute name)
    | none => throw .noMember
  | .entity id => member ((w.entity? id).bind (·.attribute? name))
  | .column id i => member (((w.entity? id).bind (·.columns[i]?)).bind (·.attribute? name))
  | .part "source" "ConnectionSettings" =>
    if Settings.fieldNames.contains name then return w.settings.get name else throw .noMember
  | .engine | .native _ | .connection _ | .part .. => throw .noMember

/-- Reads an attribute of a value. -/
def readAttribute (o : Value) (name : String) : Session Value := do
  match o.handle? with
  | none => member (o.attribute? name)
  | some ref =>
    match (← get).given.find? fun p => p.1 = (ref, name) with
    | some p => return p.2
    | none => ownAttribute ref name

/-! ## Giving -/

/-- The attributes that are derived from other parts. -/
def derived : Handle → List String
  | .source | .driver => ["name"]
  | .builder _ => ["alias", "driver"]
  | .draft _ => ["value_sets"]
  | .tableAlias .. => ["has_metadata", "target"]
  | _ => []

/-- Keeps an attribute that is no part of an object's state. -/
def keepAttribute (ref : Handle) (name : String) (v : Value) : Session Unit :=
  modify fun w => { w with given := ((ref, name), v) :: w.given.filter fun p => p.1 ≠ (ref, name) }

/-- Gives an attribute of the object of a reference a new value. -/
def giveAttribute (ref : Handle) (name : String) (v : Value) : Session Unit := do
  if (derived ref).contains name then throw .noMember
  match ref, name with
  | .source, "is_initialized" => modify fun w => { w with initialized := v.truth }
  | .driver, "database" => modify fun w => { w with database := v }
  | .driver, "schema" => modify fun w => { w with schema := v }
  | .runner r, "mode" => changeRunner r fun x => { x with mode := v }
  | .runner r, "is_released" => changeRunner r fun x => { x with released := v.truth }
  | .runner r, "is_transaction_active" => changeRunner r fun x => { x with active := v.truth }
  | .runner r, "_is_dirty" =>
    if ← keepsImage then changeRunner r fun x => { x with dirty := v.truth } else keepAttribute ref name v
  | .builder id, "query_runner" =>
    modify fun w => { w with builders := w.builders.update id fun h => { h with runner := v } }
  | .entity id, _ => match (← get).entity? id with
    | some e =>
      let e ← ofResult (e.assign name v)
      modify fun w => w.updateEntity e
    | none => throw .noMember
  | .column id i, _ => match (← get).entity? id with
    | some e => match e.columns[i]? with
      | some c =>
        let c ← ofResult (c.assign name v)
        modify fun w => w.updateEntity { e with columns := e.columns.set i c }
      | none => throw .noMember
    | none => throw .noMember
  | _, _ => keepAttribute ref name v

/-- Gives an attribute of a value a new value. Outcomes never change, and plain values have no
attributes to give. -/
def writeAttribute (o : Value) (name : String) (v : Value) : Session Unit :=
  match o, o.handle? with
  | _, some ref => giveAttribute ref name v
  | .model .., none => ofResult (Outcome.assign name)
  | .object _, none => pure ()
  | _, none => throw .noMember

end Session

end SqlWeave
