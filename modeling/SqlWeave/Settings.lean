import SqlWeave.Field
import SqlWeave.Storage.Kind

/-!
# Settings

One value of `Settings` describes one backend: which dialect is spoken, how a server is reached, and
where an embedded database keeps its image. Settings are read from fields by name; unknown ones are
ignored, and every field that does not convert is reported. `replaceAll` puts values into fields as
they are, so a field may hold any value, and what cannot be used fails where it is used.
-/

namespace SqlWeave

/-- The fields by name. -/
structure Settings where
  values : Record := []
  deriving Inhabited

namespace Settings

/-- A field of the settings. -/
structure FieldRule where
  name : String
  /-- What the field holds when nothing is given; a field without it has to be given. -/
  fallback : Option Value
  read : Field.Reader Value

/-- The kind of backend is written in any case and between blanks; an object with a value stands for
the value. -/
def normalizedType (v : Value) : Value :=
  match v.text? with
  | some s => .text (Text.lower (Text.trim s))
  | none => (v.attribute? "value").getD v

namespace FieldRule

open SqlWeave.Field

/-- A field that may be absent. -/
def spare {α : Type} (name : String) (r : Reader α) (make : α → Value) : FieldRule :=
  ⟨name, some .null, fun v => (optional r v).map fun a => .ofOption (a.map make)⟩

/-- A field with a value of its own. -/
def given {α : Type} (name : String) (fallback : Value) (r : Reader α) (make : α → Value) : FieldRule :=
  ⟨name, some fallback, fun v => (r v).map make⟩

/-- Every field, in order. -/
def all : List FieldRule :=
  [⟨"type", none, fun v => (text (normalizedType v)).map .text⟩,
    given "name" (.text "default") text .text,
    spare "url" secret .secret,
    spare "host" text .text,
    spare "port" (intBetween 1 65535) .int,
    spare "username" text .text,
    spare "password" secret .secret,
    spare "database" text .text,
    spare "schema_name" text .text,
    given "pool_size" (.int 5) (intBetween 1 100) .int,
    given "max_overflow" (.int 10) (intBetween 0 100) .int,
    given "pool_timeout" (.int 30) (intBetween 1 600) .int,
    given "connect_retries" (.int 3) (intBetween 0 10) .int,
    spare "odbc_connection_string" secret .secret,
    given "odbc_driver" (.text "ODBC Driver 18 for SQL Server") text .text,
    spare "location" text .text,
    given "auto_save" (.bool false) flag .bool,
    spare "auto_save_callback" callable id,
    given "storage" (.keyword "StorageType" StorageKind.file.word) (wordOf StorageKind.ofWord?)
      fun k => .keyword "StorageType" k.word,
    spare "storage_backend" any id,
    spare "driver" any id,
    spare "database_content" bytes .bytes,
    given "log_queries" (.bool false) flag .bool,
    spare "max_query_execution_time" positive .float]

end FieldRule

/-- The names of all fields. -/
def fieldNames : List String := FieldRule.all.map (·.name)

/-- What a field holds. -/
def get (s : Settings) (name : String) : Value := (s.values.get? name).getD .null

def type (s : Settings) : Value := s.get "type"

def name (s : Settings) : Value := s.get "name"

def database (s : Settings) : Value := s.get "database"

def schemaName (s : Settings) : Value := s.get "schema_name"

def location (s : Settings) : Value := s.get "location"

def autoSave (s : Settings) : Value := s.get "auto_save"

def autoSaveCallback (s : Settings) : Value := s.get "auto_save_callback"

/-- Where the image is kept: in a file unless a mapping is asked for. -/
def storage (s : Settings) : StorageKind :=
  if (s.get "storage").text? = some StorageKind.keyValue.word then .keyValue else .file

/-- A key-value storage has a mapping, if only an empty one. -/
def settled (s : Settings) : Settings :=
  if s.storage = .keyValue && (s.get "storage_backend").isNull then
    ⟨s.values.put "storage_backend" (.record [])⟩
  else s

/-- Reads one field. -/
def readField (given : Record) (f : FieldRule) : Field.Gather (String × Value) := do
  return (f.name, ← Field.gather given f.name f.fallback f.read)

/-- Reads settings from fields. -/
def read (given : Record) : Result Settings := Field.Gather.run do
  return settled ⟨← FieldRule.all.mapM (readField given)⟩

/-- Every field; of a callback only whether there is one. -/
def fields (s : Settings) : Record :=
  s.values.map fun p => if p.1 = "auto_save_callback" then (p.1, .bool (!p.2.isNull)) else p

/-- Puts every value of a record into its field, neither converted nor checked. -/
def replaceAll (s : Settings) (given : Record) : Settings :=
  ⟨s.values.map fun p => (p.1, (given.get? p.1).getD p.2)⟩

end Settings

end SqlWeave
