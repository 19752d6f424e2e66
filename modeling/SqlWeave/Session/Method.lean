import SqlWeave.Entity.Call
import SqlWeave.Session.Attribute

/-!
# Methods by name

Each kind of object has its methods, and each method its places for arguments. A name that the kind
does not have, and arguments that do not fit the places, are failures of the caller; so is calling
an attribute.
-/

namespace SqlWeave.Session

/-- The methods of one kind of object, with the places for their arguments. -/
abbrev Methods := Assoc (List (Place Value))

/-- A place that may stay empty. -/
def spare (name : String) : Place Value := Place.given name .null

/-- A switch that is on unless it is turned off. -/
def switched (name : String) : Place Value := Place.given name (.bool true)

/-! ## Builders -/

open Place in
/-- The methods that every builder has. -/
def commonMethods : Methods :=
  [("select", [spare "selection", spare "selection_alias"]),
    ("insert", []),
    ("update", [spare "target", spare "values"]),
    ("delete", []),
    ("clone", []),
    ("comment", [needed "comment"]),
    ("use_transaction", [switched "enabled"]),
    ("call_listeners", [switched "enabled"]),
    ("set_query_runner", [needed "query_runner"]),
    ("add_common_table_expression",
      [needed "query", needed "alias", spare "column_names", given "recursive" (.bool false),
        spare "materialized"]),
    ("set_parameter", [needed "key", needed "value"]),
    ("set_parameters", [needed "parameters"]),
    ("create_parameter", [needed "value"]),
    ("get_parameters", []),
    ("get_query", []),
    ("get_query_and_parameters", []),
    ("get_sql", []),
    ("escape", [needed "name"]),
    ("get_table_name", [needed "table_path"]),
    ("get_main_table_name", []),
    ("create_from_alias", [needed "target", spare "alias_name"]),
    ("obtain_query_runner", []),
    ("execute", [])]

open Place in
/-- The methods that add conditions. -/
def whereMethods : Methods :=
  ["where", "and_where", "or_where"].map (fun m => (m, [needed "where", spare "parameters"])) ++
    ["where_in_ids", "and_where_in_ids", "or_where_in_ids"].map fun m => (m, [needed "ids"])

open Place in
/-- The methods that ask for rows to be handed back. -/
def returningMethods : Methods :=
  [("returning", [needed "columns"]), ("output", [needed "columns"])]

open Place in
/-- The places for a target and what it is called. -/
def targetPlaces : List (Place Value) := [needed "target", spare "alias_name"]

/-- The direction that keys are sorted in when none is given. -/
def usualOrder : Value := .keyword "OrderDirection" SortDirection.asc.word

open Place in
/-- The methods of one kind of builder alone. -/
def kindMethods : StatementKind → Methods
  | .select =>
    whereMethods ++
    [("from_", targetPlaces),
      ("add_select", [needed "selection", spare "selection_alias"]),
      ("order_by", [spare "sort", given "order" usualOrder, spare "nulls"]),
      ("add_order_by", [needed "sort", given "order" usualOrder, spare "nulls"]),
      ("limit", [spare "limit"]),
      ("offset", [spare "offset"]),
      ("with_deleted", []),
      ("get_raw_many", []),
      ("get_raw_one", []),
      ("get_count", [])]
  | .insert =>
    returningMethods ++
    [("into", [needed "target", spare "columns"]),
      ("values", [needed "values"]),
      ("or_ignore", [switched "enabled"]),
      ("update_entity", [needed "enabled"])]
  | .update => whereMethods ++ returningMethods ++ [("set", [needed "values"])]
  | .delete => whereMethods ++ returningMethods ++ [("from_", targetPlaces)]

/-- What an entry of a WITH block is made from. -/
def cteSource (v : Value) : CteSource Nat :=
  match v.handle? with
  | some (.builder id) => .statement id
  | _ => .value v

/-- The fluent call that a method and its arguments mean; `none` for methods that answer something
else than a builder. -/
def fluentCall? (kind : StatementKind) (method : String) (args : List Value) : Option (Call Nat) :=
  match method, args with
  | "select", [selection, name] =>
    some (if kind = .select then .select selection name else .toSelect selection name)
  | "insert", [] => some .toInsert
  | "update", [target, values] => some (.toUpdate target values)
  | "delete", [] => some .toDelete
  | "clone", [] => some .clone
  | "comment", [text] => some (.comment text)
  | "use_transaction", [on] => some (.useTransaction on)
  | "call_listeners", [on] => some (.callListeners on)
  | "add_common_table_expression", [source, name, columns, recursive, materialized] =>
    some (.addCte (cteSource source) name columns recursive materialized)
  | "set_parameter", [key, value] => some (.setParameter key value)
  | "set_parameters", [given] => some (.setParameters given)
  | "where", [c, given] => some (.where .simple (.ofValue c) given)
  | "and_where", [c, given] => some (.where .and (.ofValue c) given)
  | "or_where", [c, given] => some (.where .or (.ofValue c) given)
  | "where_in_ids", [ids] => some (.whereInIds .simple ids)
  | "and_where_in_ids", [ids] => some (.whereInIds .and ids)
  | "or_where_in_ids", [ids] => some (.whereInIds .or ids)
  | "from_", [target, name] => some (.from target name)
  | "into", [target, columns] => some (.into target columns)
  | "returning", [columns] | "output", [columns] => some (.returning columns)
  | "values", [given] => some (.values given)
  | "or_ignore", [on] => some (.orIgnore on)
  | "update_entity", [on] => some (.updateEntity on)
  | "set", [given] => some (.set given)
  | "add_select", [selection, name] => some (.addSelect selection name)
  | "order_by", [sort, order, nulls] => some (.orderBy sort order nulls)
  | "add_order_by", [sort, order, nulls] => some (.addOrderBy sort order nulls)
  | "limit", [n] => some (.limit n)
  | "offset", [n] => some (.offset n)
  | "with_deleted", [] => some .withDeleted
  | _, _ => none

/-- Keeps what a call left of a builder. -/
def keep (id : Nat) (b : Builder Nat) : Session Unit :=
  modify fun w => { w with builders := w.builders.update id fun h => { h with builder := b } }

/-- A new builder under a number of its own. -/
def hold (h : HeldBuilder) : Session Nat := do
  let (id, builders) := (← get).builders.add h
  modify fun w => { w with builders }
  return id

/-- Makes a fluent call. A conversion gives a new builder, which runs on the same runner. -/
def fluent (id : Nat) (c : Call Nat) : Session Nat := do
  let h ← held id
  let (b, failure) := h.builder.apply (← get).catalog c
  if c.isConversion then
    match failure with
    | some f => raise f
    | none => hold { h with builder := b }
  else
    keep id b
    match failure with
    | some f => raise f
    | none => return id

/-- Runs a step on a builder's draft and gives its result. -/
def buildStep {α : Type} (id : Nat) (s : Build α) : Session α := do
  let h ← held id
  let (result, draft) := StateT.run (ExceptT.run s) h.builder.draft
  keep id { h.builder with draft }
  ofResult result

/-- A statement as it is sent, beside its values. -/
def boundValue (sql : Value) (values : List Value) : Value := .tuple [sql, .list values]

/-- Answers a method of a builder that is no fluent call. -/
def answerBuilder (id : Nat) (method : String) (args : List Value) : Session Value := do
  let w ← get
  let h ← held id
  let b := h.builder
  match method, args with
  | "set_query_runner", [r] =>
    modify fun w => { w with builders := w.builders.update id fun h => { h with runner := r } }
    object (.builder id)
  | "create_parameter", [v] => return .text (← buildStep id (Build.createParameter v))
  | "get_parameters", _ => return .record (← ofResult ((w.statement b).parameters w.catalog))
  | "get_query", _ => return .text (← queryText b)
  | "get_query_and_parameters", _ =>
    let (sql, values) ← queryBound b
    return boundValue (.text sql) values
  | "get_sql", _ => return .text (← queryBound b).1
  | "escape", [name] => return .text (← ofResult (w.dialect.escapeValue name))
  | "get_table_name", [path] => return .text (← ofResult (w.dialect.tablePathValue path))
  | "get_main_table_name", _ => ofResult (b.draft.mainTable w.catalog)
  | "create_from_alias", [target, name] =>
    return (← buildStep id (Build.createFromAlias w.catalog target name)).toValue id
  | "obtain_query_runner", _ => return (← get).renewed (← obtainRunner h.runner)
  | "execute", _ => return (← execute b h.runner).toValue
  | "get_raw_many", _ => return .list ((← executeRows b h.runner).map .record)
  | "get_raw_one", _ => match ← executeRows b h.runner with
    | [] => return .null
    | row :: _ => return .record row
  | "get_count", _ => return .int (← count b h.runner)
  | _, _ => throw .noMember

def callBuilder (id : Nat) (method : String) (args : List Value) : Session Value := do
  match fluentCall? (← held id).builder.kind method args with
  | some c => object (.builder (← fluent id c))
  | none => answerBuilder id method args

/-! ## Runners -/

open Place in
def runnerMethods (dialect : Dialect) : Methods :=
  [("connect", []), ("release", []), ("close_connection", []),
    ("start_transaction", [spare "isolation_level"]), ("commit_transaction", []),
    ("rollback_transaction", []),
    ("query", [needed "query", spare "parameters", given "use_structured_result" (.bool false)])] ++
    (if dialect = .sqljs then [("flush", [])] else [])

def callRunner (r : Nat) (method : String) (args : List Value) : Session Value := do
  let done (s : Session Unit) : Session Value := do
    s
    return .null
  match method, args with
  | "connect", _ => object (.connection (← connect r))
  | "release", _ => done (release r)
  | "close_connection", _ => done (closeConnection r)
  | "start_transaction", [level] => done (startTransaction r level)
  | "commit_transaction", _ => done (commitTransaction r)
  | "rollback_transaction", _ => done (rollbackTransaction r)
  | "flush", _ => done (flush r)
  | "query", [sql, values, structured] =>
    let answer ← query r sql values
    return (if structured.truth then Outcome.query answer else .rows answer.records).toValue
  | _, _ => throw .noMember

/-! ## The driver -/

open Place in
def driverMethods (dialect : Dialect) : Methods :=
  [("escape", [needed "name"]),
    ("build_table_name", [needed "table_name", spare "schema", spare "database"]),
    ("parameter_placeholder", [needed "index"]),
    ("prepare_parameter_value", [needed "value"]),
    ("escape_query_with_parameters", [needed "sql", needed "parameters"]),
    ("build_limit_offset", [needed "limit", needed "offset", switched "has_order"]),
    ("create_generated_map",
      [needed "metadata", needed "insert_result", given "entity_index" (.int 0),
        given "entity_count" (.int 1)]),
    ("is_returning_sql_supported", [needed "query_type"]),
    ("connect", []), ("disconnect", []), ("after_connect", []),
    ("create_query_runner", [given "mode" usualMode]),
    ("obtain_connection", [])] ++
    (if dialect.isNetwork then [("build_url", [])] else []) ++
    (if dialect = .sqljs then
      [("load", [needed "file_name_or_local_storage_or_data", switched "check_if_exists"]),
        ("save", [spare "location"]), ("auto_save", []), ("export", [])]
    else [])

/-- Can rows be handed back from a kind of statement that is named by a word? -/
def returningSupported (dialect : Dialect) (v : Value) : Result Bool :=
  match v.text?.bind StatementKind.ofWord? with
  | some kind => .ok (dialect.returns kind)
  | none => .error (.badValue (v.literal ++ " is not a valid QueryType"))

/-- Are the columns of the entity looked at when the generated values of a row are told? -/
def looksAtEntity (dialect : Dialect) (answer : QueryOutcome) (index count : Value) : Result Bool := do
  match dialect with
  | .postgres | .mssql => return (← Generated.recordAt answer.records index).isSome
  | .mysql | .mariadb =>
    if answer.records.isEmpty then return true
    return (← Generated.recordAt answer.records index).isSome
  | .sqlite =>
    let id := Generated.lastId answer.raw
    if id.isNull then return false
    let _ ← Generated.idFromLast id index count
    return true
  | .sqljs => return true

/-- The generated values of a row, for an entity and an answer that may be anything. -/
def generatedFor (subject answer index count : Value) : Session (Option Record) := do
  let w ← get
  let answer ← if w.dialect = .sqljs then pure {} else ofResult (Generated.readAnswer w.dialect answer)
  let entity? := match subject.handle? with
    | some (.entity id) => w.entity? id
    | _ => none
  match entity? with
  | some e => generatedMap e answer index count
  | none =>
    if ← ofResult (looksAtEntity w.dialect answer index count) then throw .noMember
    return none

/-- Answers what a driver tells about its dialect. -/
def answerDialect (d : Dialect) (method : String) (args : List Value) : Session Value := do
  match method, args with
  | "escape", [name] => return .text (← ofResult (d.escapeValue name))
  | "build_table_name", [table, schema, database] => ofResult (d.tableNameValue table schema database)
  | "parameter_placeholder", _ => return .text d.placeholder
  | "prepare_parameter_value", [v] => return v.plain
  | "escape_query_with_parameters", [sql, names] =>
    let (sql, values) ← ofResult (d.bindValues sql names)
    return boundValue sql values
  | "build_limit_offset", [limit, offset, ordered] => return .text (d.pagingValue limit offset ordered.truth)
  | "create_generated_map", [subject, answer, index, count] =>
    return Outcome.recordValue? (← generatedFor subject answer index count)
  | "is_returning_sql_supported", [v] => return .bool (← ofResult (returningSupported d v))
  | "build_url", _ => return (← ofResult ((← get).settings.serverUrl d)).toValue
  | _, _ => throw .noMember

def callDriver (method : String) (args : List Value) : Session Value := do
  let done (s : Session Unit) : Session Value := do
    s
    return .null
  match method, args with
  | "connect", _ => done connectDriver
  | "disconnect", _ => done disconnectDriver
  | "after_connect", _ => match (← get).afterConnect with
    | some f => throw f
    | none => return .null
  | "create_query_runner", [mode] => object (.runner (← driverRunner mode))
  | "obtain_connection", _ => object (.connection (← obtainConnection))
  | "load", [source, check] => object (.native (← load source check.truth))
  | "save", [location] => done (save location)
  | "auto_save", _ => done autoSave
  | "export", _ => return .bytes (← exportImage)
  | _, _ => answerDialect (← get).dialect method args

/-! ## The data source -/

open Place in
def sourceMethods : Methods :=
  [("initialize", []), ("destroy", []),
    ("create_query_runner", [given "mode" usualMode]),
    ("create_query_builder", [spare "target", spare "alias", spare "query_runner"]),
    ("query", [needed "query", spare "parameters", spare "query_runner"]),
    ("register_metadata", [needed "entity"]),
    ("find_metadata", [needed "target"]), ("has_metadata", [needed "target"]),
    ("get_metadata", [needed "target"])]

/-- A new SELECT builder, with a target when one is given. -/
def newBuilder (target name runner : Value) : Session Nat := do
  let b : Builder Nat := {}
  if target.isNull then hold { builder := b, runner }
  else
    let (b, failure) := b.apply (← get).catalog (.from target name)
    match failure with
    | some f => raise f
    | none => hold { builder := b, runner }

/-- The entity that a declared schema makes: with the fields of one that was made before, or without
columns. -/
def entityOfSchema (w : World) (name : String) (id : Nat) : Entity :=
  match w.entities.entities.find? fun e => e.target.sameObject (.schema name id) with
  | some e => e
  | none => { target := .schema name id, name := .text name, table := name }

/-- Registers an entity. A schema makes one, and anything else is registered as it is. -/
def registerValue (v : Value) : Session Value := do
  let w ← get
  let append (r : Registered) : Session Unit := modify fun w => { w with entities := w.entities ++ [r] }
  match v, v.handle? with
  | .schema name id, _ =>
    let (e, w) := w.register (entityOfSchema w name id)
    set w
    return e.toValue
  | _, some (.entity id) =>
    match w.entity? id with
    | some e => append (.entity e)
    | none => append (.other v)
    return v
  | _, _ =>
    append (.other v)
    return v

def callSource (method : String) (args : List Value) : Session Value := do
  let entities := (← get).entities
  match method, args with
  | "initialize", _ => do
    connectSource
    object .source
  | "destroy", _ => do
    destroy
    return .null
  | "create_query_runner", [mode] => object (.runner (← createRunner mode))
  | "create_query_builder", [target, name, runner] => object (.builder (← newBuilder target name runner))
  | "query", [sql, parameters, runner] => return .list ((← runRaw sql parameters runner).map .record)
  | "register_metadata", [v] => registerValue v
  | "find_metadata", [target] =>
    return .ofOption ((← ofResult (entities.find? target)).map Entity.toValue)
  | "has_metadata", [target] => return .bool (← ofResult (entities.find? target)).isSome
  | "get_metadata", [target] => return (← ofResult (entities.get target)).toValue
  | _, _ => throw .noMember

/-! ## Calls of any object -/

/-- The methods of the object of a reference, and how they are called. -/
def methodsOf (ref : Handle) : Session (Methods × (String → List Value → Session Value)) := do
  let w ← get
  match ref with
  | .source => return (sourceMethods, callSource)
  | .driver => return (driverMethods w.dialect, callDriver)
  | .builder id => return (commonMethods ++ kindMethods (← held id).builder.kind, callBuilder id)
  | .runner r => return (runnerMethods w.dialect, callRunner r)
  | .entity id => match w.entity? id with
    | some e => return (Entity.questions, fun method args => do
      match ← ofResult (e.ask method args) with
      | .value v => return v
      | .column c => return e.columnValue (e.columns.findIdx (· = c)) c
      | .entity e => return e.toValue)
    | none => throw .noMember
  | .column id i => match (w.entity? id).bind (·.columns[i]?) with
    | some c => return (Entity.columnQuestions, fun method args => do
      match ← ofResult (Entity.askColumn c method args) with
      | .value v => return v
      | _ => return .null)
    | none => throw .noMember
  | _ => return ([], fun _ _ => throw .noMember)

/-- Calls what is no method: an attribute that is a class cannot be called so, and no other one can
be called at all. -/
def callAttribute (o : Value) (name : String) : Session Value := do
  let _ ← readAttribute o name
  throw .wrongKind

/-- Calls a method of a value. -/
def callMethod (o : Value) (method : String) (args : List Value) (named : Assoc Value := []) :
    Session Value := do
  match o, o.handle? with
  | _, some ref =>
    let (methods, call) ← methodsOf ref
    match methods.get? method with
    | some places => call method (← ofResult (Place.fill places args named))
    | none => callAttribute o method
  | .model _ fields, none =>
    if method = "to_dict" then
      let _ ← ofResult (Place.fill ([] : List (Place Value)) args named)
      return (Value.model "" fields).reduced
    else callAttribute o method
  | _, none => callAttribute o method

end SqlWeave.Session
