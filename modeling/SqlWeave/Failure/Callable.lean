import SqlWeave.Place

/-!
# Problems by the names of their classes

A caller makes a problem by calling its class, or one of the four short forms for the general class:
`configuration_error`, `validation_error`, `connection_error` and `execution_error`. Each short form
has a code of its own and names the arguments that join the details when they are not empty.
-/

namespace SqlWeave

namespace ProblemKind

/-- A code, or the one that the class has by itself. A code is told by its value. -/
def codeOf (own : ErrorCode) (v : Value) : Result Value :=
  if !v.truth then .ok (.code own)
  else if (v.attribute? "value").isSome then .ok v
  else .error .noMember

/-- The failure behind a problem, if there is one. -/
def causeOf : Value → Option Failure
  | .exception kind message => some (.named kind message)
  | .null => none
  | v => some (.value v)

/-- The values of a collection; nothing counts as none. -/
def valuesOf (v : Value) : Result (List Value) :=
  if !v.truth then .ok []
  else match v.elements? with
    | some items => .ok items
    | none => .error .wrongKind

/-- How many parts a value has. -/
def length? : Value → Option Nat
  | .text s | .keyword _ s => some s.length
  | .model .. => none
  | v => v.elements?.map List.length

/-- A statement that can be told about: one that has a length and, when that is too long, can be
cut. -/
def tellableQuery (query : Value) : Result Value :=
  match query, length? query with
  | _, none => .error .wrongKind
  | .text _, _ => .ok query
  | v, some n => if 500 < n then .error .wrongKind else .ok v

end ProblemKind

namespace Failure

open Place ProblemKind

/-- A place for a value that may be left out. -/
def spare (name : String) : Place Value := given name .null

/-- The places of the classes that take a message, a code, details and a cause. -/
def generalPlaces : List (Place Value) :=
  [needed "message", spare "error_code", spare "details", spare "cause"]

/-- Details, or none. -/
def detailsOr (details : Value) : Value := details.orElse (.record [])

/-- A problem of a class that takes a message, a code, details and a cause. -/
def ofGeneral (make : Value → Value → Value → ProblemKind) (own : ErrorCode) :
    List Value → Result Failure
  | [message, code, details, cause] => do
    return .problem (make message (← codeOf own code) (detailsOr details)) (causeOf cause)
  | _ => .error .wrongKind

/-- What a short form is called, its code, and the arguments that join the details. -/
structure ShortForm where
  name : String
  code : ErrorCode
  extras : List String

def shortForms : List ShortForm :=
  [⟨"configuration_error", .config, ["config_key"]⟩,
    ⟨"validation_error", .validation, ["field", "value"]⟩,
    ⟨"connection_error", .connection, ["service", "host"]⟩,
    ⟨"execution_error", .execution, ["operation"]⟩]

/-- Adds an argument to the details: a refused value as text whenever there is one, anything else
when it is not empty. Details that are no record take nothing. -/
def addDetail (details : Value) (name : String) (v : Value) : Result Value :=
  let put (v : Value) : Result Value := match details with
    | .record r => .ok (.record (Assoc.put r name v))
    | _ => .error .wrongKind
  if name = "value" then if v.isNull then .ok details else put (.text v.display)
  else if v.truth then put v
  else .ok details

/-- A problem from a short form. -/
def ofShortForm (form : ShortForm) (args : List Value) (named : Record) : Result Failure := do
  let filled ← fill (needed "message" :: form.extras.map spare) args named [spare "details", spare "cause"]
  match filled with
  | message :: rest => do
    let extras := form.extras.zip rest
    match rest.drop form.extras.length with
    | [details, cause] => do
      let details ← extras.foldlM (fun acc p => addDetail acc p.1 p.2) (detailsOr details)
      return .problem (.general message (.code form.code) (detailsOr details)) (causeOf cause)
    | _ => throw .wrongKind
  | [] => throw .wrongKind

/-- A problem from a class with arguments of its own. -/
def ofClass (name : String) (args : List Value) (named : Record) : Result Failure := do
  let filled (places : List (Place Value)) : Result (List Value) := fill places args named
  let alone (k : ProblemKind) : Result Failure := .ok (.problem k none)
  match name with
  | "QuarryError" => ofGeneral .general .execution (← filled generalPlaces)
  | "UnsupportedFeatureError" => ofGeneral .unsupported .featureUnsupported (← filled generalPlaces)
  | "ReturningStatementNotSupportedError" => match ← filled [spare "query_type"] with
    | [s] => alone (.returningUnsupported s)
    | _ => throw .wrongKind
  | "DriverOptionNotSetError" => match ← filled [needed "option_name", spare "message"] with
    | [option, message] => alone (.optionMissing option message)
    | _ => throw .wrongKind
  | "DriverPackageNotInstalledError" =>
    match ← filled [needed "driver_name", needed "package_name", spare "cause"] with
    | [driver, package, cause] => return .problem (.packageMissing driver package) (causeOf cause)
    | _ => throw .wrongKind
  | "MissingDriverError" => match ← filled [needed "driver_type", needed "known_types"] with
    | [driver, known] => match known.elements? with
      | some known => alone (.driverUnknown driver known)
      | none => throw .wrongKind
    | _ => throw .wrongKind
  | "StorageNotFoundError" => match ← filled [needed "location"] with
    | [location] => alone (.storageMissing location)
    | _ => throw .wrongKind
  | "EntityMetadataNotFoundError" => match ← filled [needed "target"] with
    | [target] => alone (.entityUnknown target.targetName)
    | _ => throw .wrongKind
  | "QueryFailedError" => match ← filled [needed "query", needed "parameters", needed "cause"] with
    | [query, parameters, cause] => do
      let parameters ← valuesOf parameters
      return .problem (.queryFailed (← tellableQuery query) parameters) (causeOf cause)
    | _ => throw .wrongKind
  | "CannotExecuteNotConnectedError" => match ← filled [needed "connection_name"] with
    | [name] => alone (.notConnected name)
    | _ => throw .wrongKind
  | "QueryRunnerAlreadyReleasedError" => do let _ ← filled []; alone .runnerReleased
  | "TransactionAlreadyStartedError" => do let _ ← filled []; alone .transactionActive
  | "TransactionNotStartedError" => do let _ ← filled []; alone .transactionInactive
  | _ => throw .noMember

/-- A problem of a class with a given code. Only the classes that take a message and a code can be
made so. -/
def ofCode (name : String) (args : List Value) (named : Record) : Result Failure :=
  let leading := ["error_code", "message"]
  let given := leading.zip args ++ named
  if leading.length < args.length || (leading.take args.length).any named.has ||
      !leading.all (Assoc.has given) then .error .wrongKind
  else ofClass name [] given

/-- The problem that a call makes, by the name of a class, of its constructor from a code, or of a
short form. -/
def ofCall (callable : String) (args : List Value) (named : Record) : Result Failure :=
  match shortForms.find? (·.name = callable) with
  | some form => ofShortForm form args named
  | none => match callable.splitOn "." with
    | [name, "from_error_code"] => ofCode name args named
    | _ => ofClass callable args named

end Failure

end SqlWeave
