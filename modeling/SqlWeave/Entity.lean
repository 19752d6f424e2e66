import SqlWeave.Entity.Column

/-!
# Entities

An entity is what a caller refers to by a target (a class, a schema or a name), with the table and
the columns it stands for.
-/

namespace SqlWeave

structure Entity where
  /-- Which entity object this is. -/
  id : Nat := 0
  target : Value := .null
  /-- Is a target that may be one object with its equals, such as a text, the object that it is looked
  up by? -/
  sharesTarget : Bool := false
  /-- What the entity is called: a text, unless its target has a name that is none. -/
  name : Value := .text ""
  table : String := ""
  schema : Option String := none
  database : Option String := none
  columns : List Column := []
  deriving Inhabited

namespace Entity

/-- What an entity is called after: the name that its target has, or the text that it is. -/
def calledAfter (target : Value) : Value :=
  match (target.attribute? "__name__").getD .null, target.text? with
  | .null, some _ => target
  | name, _ => name

/-- Fills in the names that were not given: an entity is called like its target, and its table like
the entity in lower case. -/
def settled (e : Entity) : Result Entity :=
  let name := (e.name.orElse (calledAfter e.target)).orElse (.text e.table)
  if e.table ≠ "" then .ok { e with name }
  else match name.text? with
    | some n => .ok { e with name, table := Text.lower n }
    | none => .error .noMember

def primaryColumns (e : Entity) : List Column := e.columns.filter (·.isPrimary)

def generatedColumns (e : Entity) : List Column := e.columns.filter (·.isGenerated)

def hasCompositeKey (e : Entity) : Bool := 1 < e.primaryColumns.length

def updateDate? (e : Entity) : Option Column := e.columns.find? (·.isUpdateDate)

def deleteDate? (e : Entity) : Option Column := e.columns.find? (·.isDeleteDate)

def version? (e : Entity) : Option Column := e.columns.find? (·.isVersion)

/-- The column of a property; of a column name when no property is called so. -/
def column? (e : Entity) (name : String) : Option Column :=
  match e.columns.find? (·.property = name) with
  | some c => some c
  | none => e.columns.find? (·.database = name)

/-- The name that a property or column name has in the table. -/
def columnName (e : Entity) (name : String) : String :=
  match e.column? name with
  | some c => c.database
  | none => name

/-- A value of the only primary column as a map of the primary properties. -/
def singleIdMap (e : Entity) (v : Value) : Result Record :=
  if e.hasCompositeKey then
    .error (.validation ("Entity " ++ e.name.display ++
      " has a composite primary key; pass ids as mappings of property to value") (.text "ids") v)
  else match e.primaryColumns with
    | [] => .error .missingIndex
    | c :: _ => .ok (c.valueMap v)

/-- An id as a map of the primary properties. Maps stay as they are; anything else is the value of
the only primary column. -/
def idMap (e : Entity) : Value → Result Record
  | .record r => .ok r
  | v => e.singleIdMap v

/-- Collects a value for each of the columns; `none` when one of them is missing. -/
def keyOf : List Column → Value → Option Record
  | [], _ => some []
  | c :: rest, v =>
    match c.valueIn v with
    | .null => none
    | x => (keyOf rest v).map fun m => Assoc.merge [(c.property, x)] m

/-- The primary key that an entity's values make; `none` when a part is missing or there is no key. -/
def keyMap (e : Entity) (v : Value) : Option Record :=
  match keyOf e.primaryColumns v with
  | some [] => none
  | k => k

/-! ## Reading an entity from its fields -/

/-- Reads columns one after the other; the first that fails is reported. -/
def readColumns : List Value → Result (List Column)
  | [] => .ok []
  | .record r :: rest => do
    let c ← Column.read r
    let cs ← readColumns rest
    .ok (c :: cs)
  | _ :: _ => .error .wrongKind

open SqlWeave.Field in
/-- Reads the fields of an entity whose columns were read before. -/
def gatherWith (given : Record) (columns : List Column) : Gather Entity := do
  let target ← gather given "target" (some .null) any
  let name ← gather given "name" (some "") text
  let table ← gather given "table_name" (some "") text
  let schema ← gather given "schema_name" (some none) (optional text)
  let database ← gather given "database" (some none) (optional text)
  pure { target, name := .text name, table, schema, database, columns }

open SqlWeave.Field in
/-- Reads the fields of a declared schema: it has a name, stands for itself, and its table is called
like it. -/
def gatherSchema (given : Record) (columns : List Column) : Gather Entity := do
  let name ← gather given "name" none text
  let table ← gather given "table_name" (some none) (optional text)
  let schema ← gather given "schema_name" (some none) (optional text)
  let database ← gather given "database" (some none) (optional text)
  let table := match table with
    | some t => if t = "" then name else t
    | none => name
  pure { target := .schema name, name := .text name, table, schema, database, columns }

/-- Reads an entity, or a schema when `declared`, with the columns given as records. -/
def read (declared : Bool) (given : Record) : Result Entity := do
  let columns ← match given.get? "columns" with
    | some (.list cs) => readColumns cs
    | some .null | none => .ok []
    | some _ => .error .wrongKind
  settled (← (if declared then gatherSchema given columns else gatherWith given columns).run)

/-- Reads the columns from number `i` on of a list, with every rule that is broken and its place. -/
def checkColumns : Nat → List Value → List Column × List Issue
  | _, [] => ([], [])
  | i, v :: rest =>
    let (columns, issues) := checkColumns (i + 1) rest
    let issue (path : List String) (rule : String) : Issue := ⟨"columns" :: toString i :: path, rule⟩
    match v with
    | .record r => match Column.read r with
      | .ok c => (c :: columns, issues)
      | .error (.invalid broken) => (columns, broken.map (fun b => issue b.path b.rule) ++ issues)
      | .error _ => (columns, issues)
    | _ => (columns, issue [] "model_type" :: issues)

/-- The fields of an entity; what is absent is left out. -/
def fields (e : Entity) : Record :=
  let given (name : String) (t : Option String) : Record := match t with
    | some s => [(name, .text s)]
    | none => []
  (if e.target.isNull then [] else [("target", e.target.reduced)]) ++
  [("name", e.name), ("table_name", .text e.table)] ++
  given "schema_name" e.schema ++ given "database" e.database ++
  [("columns", .list (e.columns.map fun c => .record c.fields))]

/-- An entity with all of its fields, as it is displayed. -/
def model (e : Entity) : Value := .model "EntityMetadata"
  [("target", e.target), ("name", e.name), ("table_name", .text e.table),
    ("schema_name", .ofText? e.schema), ("database", .ofText? e.database),
    ("columns", .list (e.columns.map Column.model))]

/-- The entity as an object that callers hold. -/
def toValue (e : Entity) : Value := .handle (.entity e.id) "EntityMetadata" e.model

/-- The column of a number as an object that callers hold. -/
def columnValue (e : Entity) (i : Nat) (c : Column) : Value :=
  .handle (.column e.id i) "ColumnMetadata" c.model

/-- The names of what is derived from the fields and cannot be assigned. -/
def derivedNames : List String :=
  ["primary_columns", "generated_columns", "has_multiple_primary_keys", "update_date_column",
    "delete_date_column", "version_column"]

/-- Gives one field a new value; the names are filled in again. A name that begins with an
underscore is no field and changes nothing. -/
def assign (e : Entity) (field : String) (v : Value) : Result Entity := do
  let issue {α : Type} (x : Except String α) : Result α := match x with
    | .ok a => .ok a
    | .error rule => .error (.invalid [⟨[field], rule⟩])
  match field with
  | "target" => settled { e with target := v }
  | "name" => do
    let name ← issue (Field.text v)
    settled { e with name := .text name }
  | "table_name" => do
    let table ← issue (Field.text v)
    settled { e with table }
  | "schema_name" => do
    let schema ← issue (Field.optional Field.text v)
    settled { e with schema }
  | "database" => do
    let database ← issue (Field.optional Field.text v)
    settled { e with database }
  | "columns" => match v with
    | .list vs | .tuple vs | .set vs => match checkColumns 0 vs with
      | (columns, []) => settled { e with columns }
      | (_, issues) => .error (.invalid issues)
    | _ => .error (.invalid [⟨[field], "list_type"⟩])
  | _ =>
    if field.toList.head? = some '_' then .ok e
    else if derivedNames.contains field then .error .noMember
    else .error (Field.noAttribute field)

end Entity

end SqlWeave
