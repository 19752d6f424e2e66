import SqlWeave.Session.Event
import SqlWeave.Session.Hook
import SqlWeave.Session.Store
import SqlWeave.Statement.Lowering
import SqlWeave.Statement.Outcome
import SqlWeave.Settings
import SqlWeave.Storage.Image

/-!
# The state of a session

A session holds one data source: its settings, its entities and subscribers, the runners and
builders that were made, and the scripted backend that answers for a database. A call may fail; what
it did before stays done, so a failure keeps the state it left behind.
-/

namespace SqlWeave

/-! ## The scripted backend -/

/-- The calls on the backend that may be told to fail. -/
inductive Site where
  | begin | txCommit | txRollback | commit | rollback | close | connect | createEngine
  | nativeConnect | nativeExecute | nativeSerialize | nativeDeserialize
  deriving DecidableEq, Inhabited

namespace Site

def all : List Site :=
  [.begin, .txCommit, .txRollback, .commit, .rollback, .close, .connect, .createEngine,
    .nativeConnect, .nativeExecute, .nativeSerialize, .nativeDeserialize]

def word : Site → String
  | .begin => "begin"
  | .txCommit => "tx.commit"
  | .txRollback => "tx.rollback"
  | .commit => "commit"
  | .rollback => "rollback"
  | .close => "close"
  | .connect => "connect"
  | .createEngine => "create_engine"
  | .nativeConnect => "native.connect"
  | .nativeExecute => "native.execute"
  | .nativeSerialize => "native.serialize"
  | .nativeDeserialize => "native.deserialize"

end Site

/-- The scripted answer to one statement. -/
structure Reply where
  failure : Option Failure := none
  /-- The rows that are handed back, if the statement hands rows back. -/
  rows : Option (List Record) := none
  /-- The count of touched rows, when the backend reports one. -/
  affected : Option Int := some 0
  lastRowId : Value := .null
  deriving Inhabited

/-- A connection of an engine. -/
structure Connection where
  /-- The native database behind it. -/
  native : Option Nat := none
  inTransaction : Bool := false
  closed : Bool := false
  deriving Inhabited

/-- A native embedded database. -/
structure Native where
  image : List UInt8 := []
  /-- How many statements ran on it. -/
  executed : Nat := 0
  closed : Bool := false
  deriving Inhabited

/-- Appends a byte to an image for a statement that ran: the statement's number. -/
def Native.afterStatement (n : Native) : Native :=
  { n with image := n.image ++ [UInt8.ofNat (n.executed + 1)], executed := n.executed + 1 }

structure Engine where
  /-- The native database that the engine is bound to. -/
  native : Option Nat := none
  disposed : Bool := false
  deriving Inhabited

structure Backend where
  connections : Store Connection := { next := 1 }
  natives : Store Native := { next := 1 }
  engines : Store Engine := {}
  /-- What the next calls of a kind fail with; `none` lets a call pass. -/
  faults : Site → List (Option Failure) := fun _ => []
  replies : List Reply := []
  /-- The answers to the question for the last row id; without a script it is the last one seen. -/
  rowIds : Option (List (Option (List Value))) := none
  lastRowId : Value := .int 0
  now : Double := Double.ofInt 0
  tick : Double := Double.ofInt 0
  deriving Inhabited

/-! ## Runners, builders, subscribers -/

/-- The side of a replicated server that a runner talks to. -/
inductive ReplicationMode where
  | master | slave
  deriving DecidableEq, Inhabited

namespace ReplicationMode

def all : List ReplicationMode := [.master, .slave]

def word : ReplicationMode → String
  | .master => "master"
  | .slave => "slave"

end ReplicationMode

/-- A runner of statements: one connection and its transaction. -/
structure Runner where
  /-- The side it was asked for, as the caller gave it. -/
  mode : Value := .keyword "ReplicationMode" ReplicationMode.master.word
  released : Bool := false
  /-- Is an explicit transaction active? -/
  active : Bool := false
  connection : Option Nat := none
  /-- The connection that the transaction was begun on. -/
  transaction : Option Nat := none
  /-- Are there changes that were not handed to the automatic save? -/
  dirty : Bool := false
  deriving Inhabited

/-- A builder that a caller holds, with the runner it was given. -/
structure HeldBuilder where
  builder : Builder Nat := {}
  /-- What it was given for a runner. -/
  runner : Value := .null
  deriving Inhabited

/-- Receives events. Hooks that are not its own do nothing, or are missing when it is `plain`. -/
structure Subscriber where
  hooks : List String
  plain : Bool := false
  /-- The failures that hooks end with, where nothing else is told of their next calls. -/
  refusals : Assoc Failure := []
  /-- The target whose events it receives; absence receives all. -/
  target : Value := .null
  /-- Is a target that may be one object with its equals, such as a text, the target of the entity of
  this number? -/
  sharesTarget : Nat → Bool := fun _ => false
  deriving Inhabited

/-! ## The session -/

structure World where
  settings : Settings := {}
  dialect : Dialect := .sqlite
  /-- The database and the schema that the driver goes by. -/
  database : Value := .null
  schema : Value := .null
  entities : Registry := []
  /-- The number of the next entity. -/
  nextEntity : Nat := 0
  subscribers : List Subscriber := []
  /-- What the next calls of a hook of a subscriber, who is given by its number, end with; `none` lets
  a call pass. -/
  hookFaults : Nat → Hook → List (Option Failure) := fun _ _ => []
  /-- Is the package that reaches a server over ODBC installed? -/
  hasOdbc : Bool := false
  /-- The failure that the hook after connecting ends with. -/
  afterConnect : Option Failure := none
  recordsSpans : Bool := false
  initialized : Bool := false
  engine : Option Nat := none
  /-- The live native database. -/
  live : Option Nat := none
  /-- The runner that all callers of an embedded database share. -/
  shared : Option Nat := none
  runners : Store Runner := {}
  /-- How often the lock of a runner is held; it may be taken again while it is. -/
  locks : Nat → Nat := fun _ => 0
  builders : Store HeldBuilder := {}
  storage : Storage := {}
  /-- Attributes that callers gave to objects. -/
  given : List ((Handle × String) × Value) := []
  backend : Backend := {}
  trace : List Event := []
  logs : List LogEntry := []
  deriving Inhabited

/-- A call on a session. The state that it leaves is there also after a failure. -/
abbrev Session (α : Type) := ExceptT Failure (StateM World) α

namespace World

def catalog (w : World) : Catalog := { dialect := w.dialect, entities := w.entities }

/-- The name that the data source is known by in logs and errors. -/
def sourceName (w : World) : Value := w.settings.name

def changeRunner (w : World) (r : Nat) (f : Runner → Runner) : World :=
  { w with runners := w.runners.update r f }

def changeBackend (w : World) (f : Backend → Backend) : World := { w with backend := f w.backend }

def setLock (w : World) (r n : Nat) : World :=
  { w with locks := fun i => if i = r then n else w.locks i }

/-- What the next call of a hook of subscriber number `i` ends with. -/
def hookFault? (w : World) (i : Nat) (s : Subscriber) (h : Hook) : Option Failure :=
  (w.hookFaults i h).head?.getD (s.refusals.get? h.word)

/-- The world after a hook of subscriber number `i` was called. -/
def afterHook (w : World) (i : Nat) (h : Hook) : World :=
  { w with hookFaults := fun j g =>
      if j = i ∧ g = h then (w.hookFaults i h).tail else w.hookFaults j g }

/-- The entity of a number, among those that are registered and those behind aliases. -/
def entity? (w : World) (id : Nat) : Option Entity :=
  let held := w.builders.cells.flatMap fun c => (c.2.builder.draft.scope.all ++
    c.2.builder.draft.scope.former).filterMap (·.subject)
  (w.entities ++ held).findSome? fun
    | .entity e => if e.id = id then some e else none
    | .other _ => none

/-- Changes an entity wherever it stands. -/
def updateEntity (w : World) (e : Entity) : World :=
  let renew (r : Registered) : Registered := match r with
    | .entity old => .entity (if old.id = e.id then e else old)
    | other => other
  let inBuilder (h : HeldBuilder) : HeldBuilder :=
    { h with builder := { h.builder with draft := { h.builder.draft with
      scope := h.builder.draft.scope.map fun a => { a with subject := a.subject.map renew } } } }
  { w with
    entities := w.entities.map renew
    builders := { w.builders with cells := w.builders.cells.map fun c => (c.1, inBuilder c.2) } }

/-- Registers an entity as an object of its own. -/
def register (w : World) (e : Entity) : Entity × World :=
  let e := { e with id := w.nextEntity }
  (e, { w with entities := w.entities ++ [.entity e], nextEntity := w.nextEntity + 1 })

end World

namespace Session

/-- Notes an event. -/
def emit (e : Event) : Session Unit := modify fun w => { w with trace := w.trace ++ [e] }

/-- Writes a log record. -/
def log (level : LogLevel) (logger message : String) (extras : Record := [])
    (hasFailure : Bool := false) : Session Unit :=
  modify fun w => { w with logs := w.logs ++ [⟨level, logger, message, extras, hasFailure⟩] }

/-- The log record of a problem of this library. -/
def noteProblem : Failure → Session Unit
  | .problem kind cause =>
    log .debug "quarry.common.exceptions" (Failure.messageOf kind cause).display
      [("error_code", kind.codeWord), ("error_type", .text kind.className), ("details", kind.details)]
  | _ => pure ()

/-- Fails; a problem of this library is logged. -/
def raise {α : Type} (f : Failure) : Session α := do
  noteProblem f
  throw f

/-- The value of a result, or its failure. -/
def ofResult {α : Type} : Result α → Session α
  | .ok a => pure a
  | .error f => raise f

/-- Runs a call and gives its result as a value; it never fails. -/
def attempt {α : Type} (s : Session α) : Session (Result α) :=
  tryCatch (do return .ok (← s)) fun f => pure (.error f)

/-- Runs a call, then another one in every case. A failure of the second hides that of the first. -/
def andFinally {α : Type} (s : Session α) (after : Session Unit) : Session α := do
  let r ← attempt s
  after
  MonadExcept.ofExcept r

/-- The runner of number `r`. -/
def runner (r : Nat) : Session Runner := return (← get).runners.get r

def changeRunner (r : Nat) (f : Runner → Runner) : Session Unit := modify (·.changeRunner r f)

/-- The extra fields that every record about the data source carries. -/
def sourceField : Session (String × Value) := return ("data_source", (← get).sourceName)

end Session

end SqlWeave
