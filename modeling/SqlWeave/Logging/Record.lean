import SqlWeave.Logging.Level
import SqlWeave.Logging.Template
import SqlWeave.Logging.Timestamp

/-!
# Log records

A record says what happened, how severe it is and who tells it. Beside that it carries attributes
that were set on it; some names are reserved for what every record has.
-/

namespace SqlWeave

structure LogRecord where
  logger : String
  level : Int
  message : Value
  args : List Value := []
  created : Timestamp := ⟨0⟩
  /-- The attributes that were set, in order. -/
  attributes : Record := []
  /-- The class and the text of the exception that the record is about. -/
  thrown : Option (String × String) := none
  deriving Inhabited

namespace LogRecord

/-- The names of what every record has. -/
def ownNames : List String :=
  ["name", "msg", "args", "levelname", "levelno", "pathname", "filename", "module", "exc_info",
    "exc_text", "stack_info", "lineno", "funcName", "created", "msecs", "relativeCreated", "thread",
    "threadName", "processName", "process"]

/-- The names that never show an attribute of the caller: those of every record, and two that are
set while a record is written. -/
def reservedNames : List String := ownNames ++ ["asctime", "message"]

/-- What a record has under one of its own names: the attribute that was set last. -/
def own (r : LogRecord) (name : String) (v : Value) : Value := (r.attributes.get? name).getD v

/-- Does a record have an attribute or an operation of this name? -/
def has (r : LogRecord) (name : String) : Bool :=
  ownNames.contains name || name = "getMessage" || r.attributes.has name

/-- Sets an attribute. -/
def put (r : LogRecord) (name : String) (v : Value) : LogRecord :=
  { r with attributes := r.attributes.put name v }

/-- The message with its arguments; without arguments it is no template. -/
def text (r : LogRecord) : Result String :=
  let message := (r.own "msg" r.message).display
  if r.args.isEmpty then .ok message else Template.render message r.args

/-- The attributes that the caller set and may see again. -/
def extras (r : LogRecord) : Record := r.attributes.filter fun p => !reservedNames.contains p.1

/-- The exception as it is written: its class, and its text unless that is empty. -/
def thrownText (thrown : String × String) : String :=
  if thrown.2 = "" then thrown.1 else thrown.1 ++ ": " ++ thrown.2

end LogRecord

end SqlWeave
