import SqlWeave.Session.Network
import SqlWeave.Session.Query
import SqlWeave.Execution

/-!
# The data source

A data source is connected and disconnected, hands out runners, runs statements by itself and runs
blocks inside a transaction.
-/

namespace SqlWeave.Session

/-! ## Connecting -/

/-- Connects the driver. -/
def connectDriver : Session Unit := do
  match (← get).dialect with
  | .sqlite => connectFile
  | .sqljs => connectImage
  | _ => connectServer

/-- Disconnects the driver. -/
def disconnectDriver : Session Unit := do
  if (← get).dialect.isNetwork then disconnectServer else disconnectEmbedded

/-- Disconnects the data source. -/
def destroy : Session Unit := do
  let w ← get
  if !w.initialized then raise (Failure.notConnected w.sourceName)
  disconnectDriver
  modify fun w => { w with initialized := false }
  log .info "quarry.data_source" "Data source destroyed" [← sourceField]

/-- Connects the data source. When the hook after connecting fails it is disconnected again. -/
def connectSource : Session Unit := do
  let w ← get
  if w.initialized then
    raise (.problem (.general (.text ("Cannot connect to \"" ++ w.sourceName.display ++
      "\" connection because connection is already established.")) (.code .connection)
      (.record [("service", w.settings.type)])) none)
  connectDriver
  modify fun w => { w with initialized := true }
  match (← get).afterConnect with
  | some f => do
    destroy
    throw f
  | none => pure ()
  log .info "quarry.data_source" "Data source initialized"
    [← sourceField, ("db.system", w.settings.type)]

/-! ## Runners -/

/-- A new runner under a number of its own. -/
def addRunner (mode : Value) : Session Nat := do
  let (r, runners) := (← get).runners.add { mode }
  modify fun w => { w with runners }
  return r

/-- The runner that all callers of an embedded database share; the first of them makes it. -/
def sharedRunner (mode : Value) : Session Nat := do
  match (← get).shared with
  | some r => return r
  | none =>
    let r ← addRunner mode
    modify fun w => { w with shared := some r }
    return r

/-- A runner from the driver: a new one for a server, the shared one for an embedded database. -/
def driverRunner (mode : Value) : Session Nat := do
  let w ← get
  if w.dialect.isNetwork then
    if w.engine.isNone then raise (Failure.notConnected w.sourceName)
    addRunner mode
  else
    if w.live.isNone then raise (Failure.notConnected w.sourceName)
    sharedRunner mode

/-- The side that a runner talks to when none is asked for. -/
def usualMode : Value := .keyword "ReplicationMode" ReplicationMode.master.word

/-- A runner from a data source that is connected. -/
def createRunner (mode : Value := usualMode) : Session Nat := do
  let w ← get
  if !w.initialized then raise (Failure.notConnected w.sourceName)
  driverRunner mode

/-- The operations of a runner. -/
def runnerOps (r : Nat) (isolation : Value := .null) : RunnerOps (ExceptT Failure (StateM World)) where
  isActive := return (← runner r).active
  start := startTransaction r isolation
  commit := commitTransaction r
  rollback := rollbackTransaction r
  release := release r

/-! ## Statements and transactions -/

/-- What is sent for a raw statement: named references become placeholders when the parameters have
names. -/
def rawStatement (dialect : Dialect) (sql parameters : Value) : Result (Value × List Value) :=
  match parameters with
  | .record _ => dialect.bindValues sql parameters
  | v => (positional v).map fun values => (sql, values)

/-- Runs a statement on a runner that is obtained for it and given back. -/
def runApart (sql : Value) (values : List Value) : Session (List Record) := do
  let r ← createRunner
  andFinally (do return (← query r sql (.list values)).records) (release r)

/-- Runs a raw statement on what is given for a runner: on a runner, on the data source, or, when
nothing is given, on a runner of its own. -/
def runRaw (sql parameters given : Value) : Session (List Record) := do
  let w ← get
  if !w.initialized then raise (Failure.notConnected w.sourceName)
  let (sql, values) ← ofResult (rawStatement w.dialect sql parameters)
  if !given.truth then runApart sql values
  else match given.handle? with
    | some (.runner r) => return (← query r sql (.list values)).records
    | some .source => runApart sql values
    | _ => throw .noMember

variable {m : Type → Type} [Monad m] [MonadExceptOf Failure m]
  [MonadLiftT (ExceptT Failure (StateM World)) m] {α : Type}

/-- Runs a block inside one transaction of an obtained runner. -/
def transaction (isolation : Value) (block : Nat → m α) : m α := do
  let r ← liftM (createRunner : Session Nat)
  Execution.transaction (runnerOps r isolation).lift (block r)

/-- Runs a block with the data source connected, and disconnects it afterwards. -/
def connected (block : m α) : m α := do
  liftM (do if !(← get).initialized then connectSource : Session Unit)
  Execution.andFinally block (liftM (do if (← get).initialized then destroy : Session Unit))

end SqlWeave.Session
