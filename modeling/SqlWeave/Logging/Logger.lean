import SqlWeave.Logging.Context
import SqlWeave.Logging.Line

/-!
# Loggers

Every logger of this library stands below the one named `quarry`. A program that wants the records
sets a level and a form for that one logger; until then nothing is written. A level that is unset
falls back to warnings.
-/

namespace SqlWeave

/-- How records are written. -/
structure LogSetup where
  level : Int
  json : Bool
  deriving DecidableEq, Inhabited

/-- What is set about logging. -/
structure Logging where
  context : LogContext := {}
  setup : Option LogSetup := none
  deriving Inhabited

namespace Logging

/-- The name of the logger that all others stand below. -/
def rootName : String := "quarry"

/-- The full name of a logger: below the root, unless it is there already. -/
def fullName (name : String) : String :=
  if name = rootName || (rootName ++ ".").toList.isPrefixOf name.toList then name
  else rootName ++ "." ++ name

/-- The full name of the logger that a value names. -/
def nameOf (v : Value) : Result String :=
  match v, v.text? with
  | _, some s => .ok (if fullName s = s then s else rootName ++ "." ++ v.display)
  | .bytes _, none => .error .wrongKind
  | _, none => .error .noMember

/-- Sets the level, by its name in any case, and the form of what is written. Only texts and bytes
can be put into capitals, and only a text is a name. -/
def configure (l : Logging) (level : Value) (json : Bool) : Result Logging :=
  let refused : Result Logging := .error (.badValue ("Unable to configure logger '" ++ rootName ++ "'"))
  match level, level.text? with
  | _, some s => match LogLevel.ofName? (Text.upper s) with
    | some n => .ok { l with setup := some { level := n, json } }
    | none => refused
  | .bytes _, none => refused
  | _, none => .error .noMember

/-- The level that a record must reach. -/
def threshold (l : Logging) : Int :=
  match l.setup with
  | some s => if s.level = LogLevel.unset then LogLevel.warning.number else s.level
  | none => LogLevel.warning.number

/-- What is written of a record under a setup; a message that does not fit its arguments writes
nothing. -/
def written (l : Logging) (s : LogSetup) (r : LogRecord) (time : String) : String :=
  let r := l.context.attach r
  match if s.json then r.jsonLine time none else r.textLine time with
  | .ok line => line ++ "\n"
  | .error _ => ""

/-- What is written when a record is logged with extra attributes, which must not be called like
those of every record. -/
def emit (l : Logging) (r : LogRecord) (time : String) : Result String :=
  if r.level < l.threshold then .ok ""
  else if r.attributes.any fun p => LogRecord.reservedNames.contains p.1 then .error .missingKey
  else .ok (match l.setup with
    | some s => l.written s r time
    | none => "")

end Logging

end SqlWeave
