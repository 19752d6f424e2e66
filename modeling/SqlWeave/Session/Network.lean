import SqlWeave.Session.Transaction
import SqlWeave.Number.Whole
import SqlWeave.Retry.Policy
import SqlWeave.Text.Quoted

/-!
# Reaching a server

A server is reached by a URL, which is given whole or built from its parts. Connecting makes an
engine and tries a connection; an attempt that the server turns down is repeated after growing
delays.
-/

namespace SqlWeave

/-! ## URLs -/

namespace Url

/-- A byte of a form field: letters, digits and a few marks stand for themselves, a blank is a
plus. -/
def formByte (b : UInt8) : String :=
  let c := Char.ofNat b.toNat
  if b < 0x80 && (c.isAlphanum || c = '_' || c = '.' || c = '-' || c = '~') then String.singleton c
  else if c = ' ' then "+"
  else "%" ++ Text.upper (Text.hex 2 b.toNat)

/-- A text as the value of a form field. -/
def formEncode (s : String) : String := String.join (s.toUTF8.toList.map formByte)

end Url

namespace Dialect

/-- The scheme of a server's URL. -/
def scheme : Dialect → String
  | .postgres => "postgresql+psycopg2"
  | .mysql | .mariadb => "mysql+pymysql"
  | .mssql => "mssql+pyodbc"
  | .sqlite | .sqljs => "sqlite"

/-- The package that reaches a server. -/
def package : Dialect → String
  | .postgres => "psycopg2-binary"
  | .mysql | .mariadb => "PyMySQL"
  | .mssql => "pyodbc"
  | .sqlite | .sqljs => "sqlite3"

end Dialect

namespace Url

/-- A part of a URL: a text, or nothing. -/
def part (v : Value) : Result Value :=
  if v.isNull || v.text?.isSome then .ok v else .error .wrongKind

mutual
/-- An option of a URL: a text, or a sequence of options. -/
def option : Value → Result Value
  | .list vs | .tuple vs => (options vs).map .list
  | .bytes [] => .ok (.list [])
  | v => if v.text?.isSome then .ok v else .error .wrongKind

def options : List Value → Result (List Value)
  | [] => .ok []
  | v :: rest => do
    let here ← option v
    let more ← options rest
    .ok (here :: more)
end

/-- A port: a whole number, or nothing. -/
def portOf (v : Value) : Result (Option Int) :=
  if v.isNull then .ok none else (Number.whole v).map some

end Url

namespace Settings

/-- The text that a setting keeps secret; a setting that is no secret has none. -/
def revealed : Value → Result String
  | .secret s => .ok s
  | _ => .error .noMember

/-- The password that a server is reached with; an empty one is none. -/
def password (s : Settings) : Result Value :=
  let given := s.get "password"
  if given.truth then (revealed given).map .text else .ok .null

/-- The URL of the server that settings describe. -/
def serverUrl (s : Settings) (dialect : Dialect) : Result Url := do
  let odbc := s.get "odbc_connection_string"
  if dialect = .mssql && !odbc.isNull then
    return .text ("mssql+pyodbc:///?odbc_connect=" ++ Url.formEncode (← revealed odbc))
  if !(s.get "url").isNull then return .text (← revealed (s.get "url"))
  if !(s.get "host").truth then
    throw (.general .config ("Either url or host must be set for " ++ dialect.word)
      [("config_key", .text "host")])
  let password ← s.password
  let username ← Url.part (s.get "username")
  let host ← Url.part (s.get "host")
  let port ← Url.portOf (s.get "port")
  let database ← Url.part s.database
  let query ← if dialect = .mssql then do pure [("driver", ← Url.option (s.get "odbc_driver"))] else pure []
  return .parts dialect.scheme username password host port database query

end Settings

namespace Session

/-- Makes the engine of a server. -/
def createServerEngine : Session Nat := do
  let w ← get
  let packageMissing (cause : Failure) : Session Nat :=
    raise (.problem (.packageMissing (.text w.dialect.word) (.text w.dialect.package)) (some cause))
  if w.dialect = .mssql && !w.hasOdbc then
    packageMissing (.fault "ImportError" "No module named 'pyodbc'")
  else
    let url ← ofResult (w.settings.serverUrl w.dialect)
    let made ← attempt (createEngine url
      (("pool_pre_ping", .bool true) ::
        ["pool_size", "max_overflow", "pool_timeout"].map fun name => (name, w.settings.get name)) none)
    match made with
    | .ok e =>
      log .info "quarry.driver.network" ("Created " ++ w.dialect.word ++ " engine")
        [("data_source", w.sourceName), ("db.system", .text w.dialect.word)]
      return e
    | .error f =>
      if f.isA "ImportError" || f.isA "NoSuchModuleError" then packageMissing f else throw f

/-- Takes a connection and gives it back. -/
def ping : Session Unit := do
  match (← get).engine with
  | some e => close (← connectEngine e)
  | none => throw .noMember

/-- How connecting is tried again: after one second, two, four, and so on up to a minute. -/
def connectPolicy (maxRetries : Value) : RetryPolicy :=
  { maxRetries, initial := .int 1, base := .int 2, classes := some ["OperationalError"] }

/-- What is logged and done between the attempts to connect. -/
def connectHooks : Backoff.Hooks Value (ExceptT Failure (StateM World)) :=
  .logged (fun level logger message => log level logger message) (fun delay => emit (.sleep delay)) "_ping"

/-- Connects to the server, as often as the settings say. -/
def tryServer : Session Unit := do
  (connectPolicy ((← get).settings.get "connect_retries")).run connectHooks ping

/-- Makes the engine and tries it. -/
def connectServer : Session Unit := do
  let e ← createServerEngine
  modify fun w => { w with engine := some e }
  match ← attempt tryServer with
  | .ok _ => pure ()
  | .error f =>
    if f.isA "OperationalError" then
      disposeEngine e
      modify fun w => { w with engine := none }
      let w ← get
      let host := w.settings.get "host"
      raise (.problem (.general (.text ("Failed to connect to " ++ w.dialect.word)) (.code .connection)
        (.record (("service", .text w.dialect.word) :: if host.truth then [("host", host)] else []))) (some f))
    else throw f

/-- Drops the engine of a server. -/
def disconnectServer : Session Unit := do
  match (← get).engine with
  | some e =>
    disposeEngine e
    modify fun w => { w with engine := none }
  | none => pure ()

end Session

end SqlWeave
