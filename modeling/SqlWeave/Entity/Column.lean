import SqlWeave.Field

/-!
# Columns

A column ties a property of an entity to a column of its table, and says which values of it the
database makes by itself.
-/

namespace SqlWeave

/-- How a column comes by its value when a row is inserted. -/
inductive Generation where
  | increment | identity | uuid | rowid
  deriving DecidableEq, Inhabited

namespace Generation

def all : List Generation := [.increment, .identity, .uuid, .rowid]

def word : Generation → String
  | .increment => "increment"
  | .identity => "identity"
  | .uuid => "uuid"
  | .rowid => "rowid"

def ofWord? (s : String) : Option Generation := all.find? (·.word = s)

end Generation

structure Column where
  property : String
  /-- The name of the column in its table. -/
  database : String
  isPrimary : Bool := false
  isGenerated : Bool := false
  generation : Option Generation := none
  isNullable : Bool := true
  isCreateDate : Bool := false
  isUpdateDate : Bool := false
  isDeleteDate : Bool := false
  isVersion : Bool := false
  deriving DecidableEq, Inhabited

namespace Column

/-- A column is named like its property when nothing else is given. -/
def settled (c : Column) : Column := if c.database = "" then { c with database := c.property } else c

/-- Columns whose value is there after an insert even when none was given. -/
def isAutomatic (c : Column) : Bool := c.isCreateDate || c.isUpdateDate || c.isVersion

/-- A value under the column's property. -/
def valueMap (c : Column) (v : Value) : Record := [(c.property, v)]

/-- The value that an entity holds for the column, as a record or as an object. -/
def valueIn (c : Column) : Value → Value
  | .record fs => .ofOption (Assoc.get? fs c.property)
  | v => .ofOption (v.attribute? c.property)

open SqlWeave.Field in
/-- Reads a column from its fields. -/
def read (given : Record) : Result Column := Gather.run do
  let property ← gather given "property_name" none text
  let database ← gather given "database_name" (some none) (optional text)
  let isPrimary ← gather given "is_primary" (some false) flag
  let isGenerated ← gather given "is_generated" (some false) flag
  let generation ← gather given "generation_strategy" (some none) (optional (wordOf Generation.ofWord?))
  let isNullable ← gather given "is_nullable" (some true) flag
  let isCreateDate ← gather given "is_create_date" (some false) flag
  let isUpdateDate ← gather given "is_update_date" (some false) flag
  let isDeleteDate ← gather given "is_delete_date" (some false) flag
  let isVersion ← gather given "is_version" (some false) flag
  pure (settled
    { property, database := database.getD "", isPrimary, isGenerated, generation, isNullable,
      isCreateDate, isUpdateDate, isDeleteDate, isVersion })

/-- A column's fields. An absent generation is left out. -/
def fields (c : Column) : Record :=
  [("property_name", .text c.property), ("database_name", .text c.database),
    ("is_primary", .bool c.isPrimary), ("is_generated", .bool c.isGenerated)] ++
  (match c.generation with
    | some g => [("generation_strategy", .text g.word)]
    | none => []) ++
  [("is_nullable", .bool c.isNullable), ("is_create_date", .bool c.isCreateDate),
    ("is_update_date", .bool c.isUpdateDate), ("is_delete_date", .bool c.isDeleteDate),
    ("is_version", .bool c.isVersion)]

/-- A column with all of its fields, as it is displayed. -/
def model (c : Column) : Value := .model "ColumnMetadata"
  [("property_name", .text c.property), ("database_name", .text c.database),
    ("is_primary", .bool c.isPrimary), ("is_generated", .bool c.isGenerated),
    ("generation_strategy", .ofText? (c.generation.map Generation.word)),
    ("is_nullable", .bool c.isNullable), ("is_create_date", .bool c.isCreateDate),
    ("is_update_date", .bool c.isUpdateDate), ("is_delete_date", .bool c.isDeleteDate),
    ("is_version", .bool c.isVersion)]

/-- Gives one field a new value. A name that begins with an underscore is no field and changes
nothing. -/
def assign (c : Column) (field : String) (v : Value) : Result Column :=
  if c.fields.has field || field = "generation_strategy" then read (c.fields.put field v)
  else if field.toList.head? = some '_' then .ok c
  else .error (Field.noAttribute field)

/-- An attribute of a column. -/
def attribute? (c : Column) (name : String) : Option Value := c.model.attribute? name

end Column

end SqlWeave
