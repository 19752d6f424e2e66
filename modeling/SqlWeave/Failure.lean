import SqlWeave.Failure.Code
import SqlWeave.Value.Display

/-!
# Failures

A call ends with a value or with a failure. A failure is a `Problem` of this library, which carries
a code, details and perhaps the failure that caused it; a fault of the surroundings, known by its
class and its text; a list of fields that did not convert; or a value of a kind that cannot be used
where it stands.
-/

namespace SqlWeave

/-- A field that did not convert: where it stands, and the rule it broke. -/
structure Issue where
  path : List String
  rule : String
  deriving DecidableEq, Inhabited, BEq

/-- What went wrong, with what is known about it. What is known is kept as it was given. -/
inductive ProblemKind where
  | general (message code details : Value)
  | unsupported (message code details : Value)
  | returningUnsupported (statement : Value)
  | optionMissing (option message : Value)
  | packageMissing (driver package : Value)
  | driverUnknown (given : Value) (known : List Value)
  | storageMissing (location : Value)
  | entityUnknown (name : Value)
  | queryFailed (query : Value) (parameters : List Value)
  | runnerReleased
  | transactionActive
  | transactionInactive
  | notConnected (source : Value)
  deriving Inhabited

/-- How a call fails. -/
inductive Failure where
  | problem (kind : ProblemKind) (cause : Option Failure)
  | fault (kind message : String)
  | invalid (issues : List Issue)
  /-- An object that is no failure and stands in the place of one. -/
  | value (v : Value)
  /-- A value of a kind that cannot be used there. -/
  | wrongKind
  /-- An object that has no such member. -/
  | noMember
  | missingKey
  | missingIndex
  /-- A chain of references that never ends. -/
  | endless
  | malformedJson
  /-- Bytes that are no text. -/
  | malformedText
  deriving Inhabited

/-- A result or a failure. -/
abbrev Result (α : Type) := Except Failure α

/-- The surroundings' word for a bad value. -/
def Failure.badValue (message : String) : Failure := .fault "ValueError" message

/-- The surroundings' word for a number that is too large. -/
def Failure.overflow (message : String) : Failure := .fault "OverflowError" message

/-- Texts with a text between them; nothing else can be joined. -/
def Value.joined (between : String) (vs : List Value) : Result String := do
  let texts ← vs.mapM fun v => match v.text? with
    | some s => Except.ok s
    | none => .error Failure.wrongKind
  return String.intercalate between texts

namespace ProblemKind

/-- The class name that a problem is reported under. -/
def className : ProblemKind → String
  | .general .. => "QuarryError"
  | .unsupported .. => "UnsupportedFeatureError"
  | .returningUnsupported _ => "ReturningStatementNotSupportedError"
  | .optionMissing .. => "DriverOptionNotSetError"
  | .packageMissing .. => "DriverPackageNotInstalledError"
  | .driverUnknown .. => "MissingDriverError"
  | .storageMissing _ => "StorageNotFoundError"
  | .entityUnknown _ => "EntityMetadataNotFoundError"
  | .queryFailed .. => "QueryFailedError"
  | .runnerReleased => "QueryRunnerAlreadyReleasedError"
  | .transactionActive => "TransactionAlreadyStartedError"
  | .transactionInactive => "TransactionNotStartedError"
  | .notConnected _ => "CannotExecuteNotConnectedError"

/-- The class of a problem and the classes above it, up to the root of the family. -/
def lineage (k : ProblemKind) : List String :=
  match k with
  | .general .. => [k.className]
  | .returningUnsupported _ => [k.className, "UnsupportedFeatureError", "QuarryError"]
  | _ => [k.className, "QuarryError"]

/-- The code of a problem. -/
def code : ProblemKind → Value
  | .general _ c _ => c
  | .unsupported _ c _ => c
  | .returningUnsupported _ => .code .featureUnsupported
  | .optionMissing .. => .code .configMissing
  | .packageMissing .. => .code .packageMissing
  | .driverUnknown .. => .code .platformUnsupported
  | .storageMissing _ => .code .storageNotFound
  | .entityUnknown _ => .code .metadataNotFound
  | .queryFailed .. => .code .queryExecution
  | .runnerReleased => .code .runnerReleased
  | .transactionActive | .transactionInactive => .code .transaction
  | .notConnected _ => .code .notConnected

/-- The code as it is reported. -/
def codeWord (k : ProblemKind) : Value := .ofOption (k.code.attribute? "value")

/-- A statement text cut to its first 500 characters. -/
def excerpt (query : String) : String :=
  if 500 < query.length then String.ofList (query.toList.take 500) ++ "..." else query

/-- What the details show of a statement. -/
def shownQuery (query : Value) : Value :=
  match query with
  | .text s => .text (excerpt s)
  | v => v

/-- What is known about a problem. -/
def details : ProblemKind → Value
  | .general _ _ d => d
  | .unsupported _ _ d => d
  | .returningUnsupported s => .record (if s.truth then [("query_type", s)] else [])
  | .optionMissing option _ => .record [("option", option)]
  | .packageMissing driver package => .record [("driver", driver), ("package", package)]
  | .driverUnknown given known =>
    .record [("driver_type", .text given.display), ("known_types", .list known)]
  | .storageMissing location => .record [("location", location)]
  | .entityUnknown name => .record [("target", name)]
  | .queryFailed query _ => .record [("query", shownQuery query)]
  | .notConnected source => .record [("connection", source)]
  | .runnerReleased | .transactionActive | .transactionInactive => .record []

/-- What the problem says; `cause` is the text of the failure behind it. -/
def message (cause : String) : ProblemKind → Value
  | .general m _ _ => m
  | .unsupported m _ _ => m
  | .returningUnsupported _ => .text
    ("OUTPUT or RETURNING clause only supported by Microsoft SQL Server, " ++
      "PostgreSQL and MariaDB databases.")
  | .optionMissing option m => m.orElse (.text ("Driver option (" ++ option.display ++
      ") is not set. Please set it to perform connection to the database."))
  | .packageMissing driver package => .text (driver.display ++
      " package has not been found installed. Please run \"pip install " ++ package.display ++ "\".")
  | .driverUnknown given known => .text
    ("Wrong driver: \"" ++ given.display ++ "\" given. Supported drivers are: " ++
      String.intercalate ", " (known.map fun k => "\"" ++ k.display ++ "\"") ++ ".")
  | .storageMissing location => .text ("File " ++ location.display ++ " does not exist")
  | .entityUnknown name => .text ("No metadata for \"" ++ name.display ++ "\" was found.")
  | .queryFailed _ _ => .text ("Query failed: " ++ cause)
  | .runnerReleased => .text "Query runner already released. Cannot run queries anymore."
  | .transactionActive => .text
    "Transaction already started for the given connection, commit current transaction before starting a new one."
  | .transactionInactive => .text
    "Transaction is not started yet, start transaction before committing or rolling it back."
  | .notConnected source => .text ("Cannot execute operation on \"" ++ source.display ++
      "\" connection because connection is not yet established.")

end ProblemKind

namespace Failure

/-- The class name that a failure is reported under. -/
def className : Failure → String
  | .problem k _ => k.className
  | .fault kind _ => kind
  | .invalid _ => "ValidationError"
  | .value v => v.kindName
  | .wrongKind => "TypeError"
  | .noMember => "AttributeError"
  | .missingKey => "KeyError"
  | .missingIndex => "IndexError"
  | .endless => "RecursionError"
  | .malformedJson => "JSONDecodeError"
  | .malformedText => "UnicodeDecodeError"

/-- Is there anything behind a problem? An object that counts as false is not told about. -/
def isTold : Failure → Bool
  | .value v => v.truth
  | _ => true

/-- The text of a failure. Failures whose text is not part of the contract read `?`. -/
def text : Failure → String
  | .problem k none => "[" ++ k.codeWord.display ++ "] " ++ (k.message "None").display
  | .problem k (some c) =>
    let inner := text c
    "[" ++ k.codeWord.display ++ "] " ++ (k.message inner).display ++
      (if c.isTold then " (caused by: " ++ c.className ++ ": " ++ inner ++ ")" else "")
  | .fault _ m => m
  | .value v => v.display
  | _ => "?"

/-- What a problem says by itself, without its code and cause. -/
def messageOf (k : ProblemKind) (cause : Option Failure) : Value :=
  k.message (match cause with
    | some c => c.text
    | none => "None")

/-- A problem as a record: its class, what it says, its code by both of its names, its details. A
code of one name alone cannot be told. -/
def toRecord : Failure → Result Record
  | .problem k cause => match k.code.attribute? "name" with
    | some label => .ok
      [("type", .text k.className), ("message", messageOf k cause),
        ("error_code", k.codeWord), ("error_name", label), ("details", k.details)]
    | none => .error .noMember
  | _ => .error .noMember

/-- The classes directly above the classes of the surroundings. -/
def parents : List (String × String) :=
  [("FileNotFoundError", "OSError"), ("FileExistsError", "OSError"), ("IsADirectoryError", "OSError"),
    ("NotADirectoryError", "OSError"), ("PermissionError", "OSError"), ("ConnectionError", "OSError"),
    ("TimeoutError", "OSError"), ("KeyError", "LookupError"), ("IndexError", "LookupError"),
    ("ModuleNotFoundError", "ImportError"), ("JSONDecodeError", "ValueError"),
    ("UnicodeDecodeError", "ValueError"), ("RecursionError", "RuntimeError"),
    ("OverflowError", "ArithmeticError"), ("ValidationError", "ValueError")]

/-- The class of a failure and those above it that are not classes of the surroundings. -/
def lineage : Failure → List String
  | .problem k _ => k.lineage
  | f => [f.className]

/-- Does a failure belong to a class? Every failure is an `Exception`. -/
def isA (f : Failure) (kind : String) : Bool :=
  f.lineage.contains kind || kind = "Exception" || parents.contains (f.className, kind)

/-- A failure of the surroundings, by its class and its text. Some classes have no text of their
own that is part of the contract. -/
def named (kind message : String) : Failure :=
  match kind with
  | "TypeError" => .wrongKind
  | "AttributeError" => .noMember
  | "KeyError" => .missingKey
  | "IndexError" => .missingIndex
  | "RecursionError" => .endless
  | "JSONDecodeError" => .malformedJson
  | "UnicodeDecodeError" => .malformedText
  | _ => .fault kind message

/-! ## The problems that this library reports under the general class -/

/-- A problem of the general class. -/
def general (code : ErrorCode) (message : String) (details : Record) : Failure :=
  .problem (.general (.text message) (.code code) (.record details)) none

/-- A feature that a dialect does not have. -/
def unsupported (message : String) : Failure :=
  .problem (.unsupported (.text message) (.code .featureUnsupported) (.record [])) none

/-- A value or a call that is refused; an empty field name and an absent value are not among the
details. -/
def validation (message : String) (field : Value) (value : Value := .null) : Failure :=
  let details : Record := if field.truth then [("field", field)] else []
  general .validation message
    (if value.isNull then details else details ++ [("value", .text value.display)])

def mainAliasUnset : Failure := validation "Main alias is not set" (.text "main_alias")

def notConnected (source : Value) : Failure := .problem (.notConnected source) none

end Failure

end SqlWeave
