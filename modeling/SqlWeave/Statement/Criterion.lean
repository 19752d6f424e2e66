import SqlWeave.Place
import SqlWeave.Statement.Parameter

/-!
# Criteria

A caller states a condition in one of several ways: as SQL text, as a record of properties that all
have to match, as a list of records of which one has to, as a function that writes the text, as a
list of ids, or as a group built by further calls. `Build.condition` turns a criterion into a
condition; on the way it binds the values that the criterion compares with.
-/

namespace SqlWeave

/-- A criterion without further calls inside. -/
inductive Simple where
  | text (sql : String)
  | record (r : Record)
  /-- One of several records. Items that are no records cannot be used. -/
  | anyOf (items : List Value)
  /-- SQL text with holes for values. -/
  | template (sql : String) (bound : List Value)
  /-- One of several ids with more than one part. -/
  | keys (maps : List Record)
  /-- A function that cannot be called with a statement. -/
  | unfit
  /-- A kind of value that states nothing. -/
  | unsupported (kind : String)
  deriving Inhabited

mutual
inductive Criterion where
  | simple (c : Simple)
  | group (negated : Bool) (calls : List GroupCall)

/-- A call inside a group. -/
inductive GroupCall where
  | where (link : Connector) (c : Criterion) (given : Value)
  | whereInIds (link : Connector) (ids : Value)
  | setParameter (key value : Value)
  | setParameters (given : Value)
  /-- A condition that compares a column with a generated parameter. -/
  | whereEquals (column value : Value)
  /-- A call that cannot be made. -/
  | failing (f : Failure)
end

instance : Inhabited Criterion := ⟨.simple default⟩
instance : Inhabited GroupCall := ⟨.failing default⟩

namespace GroupCall

open Place in
/-- The places of the calls that a group takes. -/
def places : Assoc (List (Place Value)) :=
  let stated := [needed "where", given "parameters" .null]
  let ids := [needed "ids"]
  [("where", stated), ("and_where", stated), ("or_where", stated), ("where_in_ids", ids),
    ("and_where_in_ids", ids), ("or_where_in_ids", ids), ("set_parameter", [needed "key", needed "value"]),
    ("set_parameters", [needed "parameters"]), ("and_where_bound", [needed "column", needed "value"])]

/-- The connector of a call. -/
def connector (method : String) : Connector :=
  if method = "and_where" || method = "and_where_in_ids" then .and
  else if method = "or_where" || method = "or_where_in_ids" then .or
  else .simple

/-- The call of a method; `stated` are the criteria that the arguments state. -/
def make (method : String) (args : List Value) (stated : List Criterion) : GroupCall :=
  match places.get? method with
  | none => .failing .noMember
  | some places => match Place.fill places args [] with
    | .error f => .failing f
    | .ok filled => match method, filled, stated with
      | "set_parameter", [key, value], _ => .setParameter key value
      | "set_parameters", [given], _ => .setParameters given
      | "and_where_bound", [column, value], _ => .whereEquals column value
      | _, [ids], _ => .whereInIds (connector method) ids
      | _, [_, given], c :: _ => .where (connector method) c given
      | _, _, _ => .failing .wrongKind

end GroupCall

mutual
/-- The criterion that a value states. -/
def Criterion.ofValue : Value → Criterion
  | .text s | .keyword _ s => .simple (.text s)
  | .template sql bound => .simple (.template sql bound)
  | .record r => .simple (.record r)
  | .list xs => .simple (.anyOf xs)
  | .tuple xs => .simple (.anyOf xs)
  | .group negated calls => .group negated (GroupCall.ofCalls calls)
  | v => .simple (if v.isCallable then .unfit else .unsupported v.kindName)

/-- The criteria that some values state. -/
def Criterion.ofValues : List Value → List Criterion
  | [] => []
  | v :: rest => Criterion.ofValue v :: Criterion.ofValues rest

/-- The calls that make a group. -/
def GroupCall.ofCalls : List (String × List Value) → List GroupCall
  | [] => []
  | (method, args) :: rest =>
    GroupCall.make method args (Criterion.ofValues args) :: GroupCall.ofCalls rest
end

/-- The criterion that ids of an entity state. -/
def Entity.idsCriterion (e : Entity) (ids : List Value) : Result Simple :=
  match e.primaryColumns with
  | [] => .error (Failure.validation ("Entity " ++ e.name.display ++ " has no primary columns") (.text "ids"))
  | primary :: more => do
    let maps ← ids.mapM e.idMap
    if more.isEmpty then
      pure (.record [(primary.property, .list (maps.map fun m => .ofOption (Assoc.get? m primary.property)))])
    else if maps.isEmpty then pure (.text "0=1")
    else pure (.keys maps)

namespace Draft

/-- A property as a column of the statement. -/
def columnReference (dialect : Dialect) (d : Draft) (property : String) : Result String := do
  match d.main with
  | none => return dialect.escape property
  | some a =>
    let column := dialect.escape (match ← a.namingEntity with
      | some e => e.columnName property
      | none => property)
    if d.qualified then return (← dialect.escapeValue a.name) ++ "." ++ column else return column

/-- The ids of a list, or the one id that a value is. -/
def idList : Value → List Value
  | .list xs | .tuple xs => xs
  | v => [v]

/-- The criterion that a list of ids, or one id, states. -/
def idsCriterion (d : Draft) (ids : Value) : Result Simple := do
  match ← d.entity with
  | none =>
    throw (Failure.validation "Entity metadata is required for primary key conditions" (.text "main_alias"))
  | some e => e.idsCriterion (idList ids)

end Draft

namespace Build

/-- The comparison of a column with a value. -/
def comparison (column : String) : Value → Build String
  | .null => pure (column ++ " IS NULL")
  | .list xs | .tuple xs | .set xs => do
    let name ← createParameter (.list xs)
    pure (column ++ " IN (:..." ++ name ++ ")")
  | v => do
    let name ← createParameter v
    pure (column ++ " = :" ++ name)

/-- The comparisons that a record states, one for each property. -/
def comparisons (dialect : Dialect) : Record → Build (List String)
  | [] => pure []
  | (property, value) :: rest => do
    let column ← MonadExcept.ofExcept ((← get).columnReference dialect property)
    let here ← comparison column value
    let more ← comparisons dialect rest
    pure (here :: more)

/-- All comparisons of a record. -/
def allOf (dialect : Dialect) (r : Record) : Build String := do
  pure (String.intercalate " AND " (← comparisons dialect r))

/-- The comparisons of each record of a list. -/
def alternatives (dialect : Dialect) : List Value → Build (List String)
  | [] => pure []
  | .record r :: rest => do
    let here ← allOf dialect r
    let more ← alternatives dialect rest
    pure (here :: more)
  | _ :: _ => throw .noMember

/-- Puts a text into the first hole of another. -/
def fillHole (hole : List Char) : List Char → List Char
  | [] => []
  | '\x7b' :: '\x7d' :: rest => hole ++ rest
  | c :: rest => c :: fillHole hole rest

/-- Binds each value under a generated name and puts the reference into the next hole. -/
def fill (sql : String) : List Value → Build String
  | [] => pure sql
  | v :: rest => do
    let name ← createParameter v
    fill (String.ofList (fillHole (':' :: name.toList) sql.toList)) rest

/-- A group for each of several ids, joined by OR. -/
def keyGroups (dialect : Dialect) : List Record → Build (List Clause)
  | [] => pure []
  | m :: rest => do
    let here ← allOf dialect m
    let more ← keyGroups dialect rest
    if here = "" then pure more
    else pure ((.or, .group false [(.simple, .text here)]) :: more)

/-- The condition that a criterion without calls states. -/
def simpleCondition (dialect : Dialect) : Simple → Build Condition
  | .text sql => pure (.text sql)
  | .record r => do pure (.text (← allOf dialect r))
  | .anyOf items => do
    match ← alternatives dialect items with
    | [one] => pure (.text one)
    | many => pure (.text (String.intercalate " OR " (many.map fun s => "(" ++ s ++ ")")))
  | .template sql bound => do pure (.text (← fill sql bound))
  | .keys maps => do pure (.group false (← keyGroups dialect maps))
  | .unfit => throw .wrongKind
  | .unsupported kind => throw (Failure.validation ("Unsupported where condition: " ++ kind) (.text "where"))

/-- A level with one more clause; a bare connector starts the level anew, and an empty condition
adds nothing. -/
def extendLevel (level : List Clause) (link : Connector) (c : Condition) : List Clause :=
  let base := if link = .simple then [] else level
  if c.isEmpty then base else base ++ [(link, c)]

mutual
/-- The condition that a criterion states. -/
def condition (dialect : Dialect) : Criterion → Build Condition
  | .simple c => simpleCondition dialect c
  | .group negated calls => do pure (.group negated (← runGroup dialect [] calls))

/-- The level that the calls of a group leave. -/
def runGroup (dialect : Dialect) (level : List Clause) : List GroupCall → Build (List Clause)
  | [] => pure level
  | .where link c given :: rest => do
    let c ← condition dialect c
    bindGiven given
    runGroup dialect (extendLevel level link c) rest
  | .whereInIds link ids :: rest => do
    let c ← MonadExcept.ofExcept ((← get).idsCriterion ids)
    let c ← simpleCondition dialect c
    runGroup dialect (extendLevel level link c) rest
  | .setParameter key value :: rest => do
    setParameter key value
    runGroup dialect level rest
  | .setParameters given :: rest => do
    setGiven given
    runGroup dialect level rest
  | .whereEquals column value :: rest => do
    let column ← MonadExcept.ofExcept (dialect.escapeValue column)
    let name ← createParameter value
    runGroup dialect (extendLevel level .and (.text (column ++ " = :" ++ name))) rest
  | .failing f :: _ => throw f
end

/-- Adds a criterion to the statement's own level. A bare connector clears the level before the
criterion is looked at. -/
def whereCall (dialect : Dialect) (link : Connector) (c : Criterion) (given : Value) : Build Unit := do
  if link = .simple then modify fun d => { d with wheres := [] }
  let c ← condition dialect c
  modify fun d => { d with wheres := extendLevel d.wheres link c }
  bindGiven given

/-- Adds a match on ids to the statement's own level. -/
def whereInIds (dialect : Dialect) (link : Connector) (ids : Value) : Build Unit := do
  let c ← MonadExcept.ofExcept ((← get).idsCriterion ids)
  whereCall dialect link (.simple c) .null

end Build

end SqlWeave
