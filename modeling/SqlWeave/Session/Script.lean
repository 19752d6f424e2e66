import SqlWeave.Session.Opening
import SqlWeave.Session.Term
import SqlWeave.Session.View

/-!
# Scripts

A script is a list of steps on a session. A step calls a method, reads an attribute, makes a
builder, or runs further steps inside a transaction; objects that steps give are kept under names.
Every step is reported with its answer, the events and the log records that it led to, and what the
objects of the session show after it. After a step that fails the script goes on with the next one,
on the state that was left.

Inside a block a step may be marked as one that throws: its failure leaves the block, as a failure
of the caller's own code would.
-/

namespace SqlWeave

/-! ## Steps -/

/-- A step without further steps inside. -/
inductive Action where
  | call (on method : String) (args : List Term) (named : List (String × Term)) (keep : Option String)
  | read (on field : String) (keep : Option String)
  | write (on field : String) (v : Term)
  /-- Makes a builder, and gives it the runner of a name. -/
  | build (args : List Term) (keep : String) (runner : Option String)
  | fail (f : Failure)
  | register (e : EntityDeclaration)
  | subscribe (s : Subscriber)
  /-- Tells subscribers of an event, perhaps with payloads. -/
  | broadcast (on : String) (event entity : Term) (payloads : Option Term)
  | same (a b : String)
  | display (on : String)
  /-- A part of what a builder has said. -/
  | flag (on name : String)
  | findAlias (on : String) (name : Term)
  | createAlias (on : String) (args : List Term) (main foreign : Bool)
  | storageMapping
  | storageName
  | files
  | writeFile (path : String) (content : List UInt8)
  | failAfterConnect (f : Failure)
  /-- Nothing that a session would see. -/
  | idle
  deriving Inhabited

/-- What further steps run inside of. -/
inductive Block where
  | transaction (args : List Term) (keep : String)
  | connected
  | exclusive (on : String)
  deriving Inhabited

/-- A block that is entered by an object runs on that object; a transaction has a runner of its own. -/
def Block.runsOnItself : Block → Option Bool
  | .transaction .. => none
  | .connected | .exclusive _ => some true

inductive Step where
  | act (a : Action) (throws : Bool)
  | block (b : Block) (throws : Bool) (body : List Step)

/-- What one step led to, and what the objects of the session show after it. -/
structure Effects where
  trace : List Event := []
  logs : List LogEntry := []
  views : Handle → View := fun _ => .member
  deriving Inhabited

/-- The report of a step; `inner` holds the reports of the steps inside, once a block was entered,
and `same` tells whether the block ran on the very object that it was entered by. -/
inductive Report where
  | of (answer : Result Value) (effects : Effects) (inner : Option (List Report)) (same : Option Bool)

/-! ## The state of a script -/

/-- A session, the objects under their names, and the reports of the block under way. -/
structure Desk where
  world : World := {}
  objects : Assoc Value := []
  inner : Option (List Report) := none

/-- A step under way. -/
abbrev Script (α : Type) := ExceptT Failure (StateM Desk) α

namespace Script

/-- A call on the session of a script. -/
def onSession {α : Type} (s : Session α) : Script α := ExceptT.mk fun d =>
  let (r, world) := (ExceptT.run s).run d.world
  (r, { d with world })

instance : MonadLift (ExceptT Failure (StateM World)) (ExceptT Failure (StateM Desk)) := ⟨onSession⟩

/-- The state of the script. -/
def desk : Script Desk := (get : StateM Desk Desk)

def changeDesk (f : Desk → Desk) : Script Unit := (modify f : StateM Desk Unit)

def changeWorld (f : World → World) : Script Unit := changeDesk fun d => { d with world := f d.world }

/-- The object of a name. -/
def object (name : String) : Script Value := do
  let d ← desk
  match name, d.objects.get? name with
  | _, some o => return d.world.renewed o
  | "ds", none => return d.world.object .source
  | "driver", none => return d.world.object .driver
  | _, none => throw (.fault "LookupError" ("no " ++ name))

/-- Keeps an object under a name. -/
def keep (name : String) (o : Value) : Script Unit :=
  changeDesk fun d => { d with objects := d.objects.put name o }

/-- How terms of a script are read. -/
def finder : Term.Finder (ExceptT Failure (StateM Desk)) :=
  { named := object
    entityOf := fun target => (Session.callSource "get_metadata" [target] : Session Value)
    fail := fun f => throw f }

/-- The value of a term. -/
def read (t : Term) : Script Value := t.read finder

def readAll (terms : List Term) : Script (List Value) := Term.readItems finder terms

/-- The builder of a name. -/
def builder (name : String) : Script Nat := do
  match (← object name).handle? with
  | some (.builder id) => return id
  | _ => throw .noMember

/-- The runner of a name. -/
def runner (name : String) : Script Nat := do
  match (← object name).handle? with
  | some (.runner r) => return r
  | _ => throw .noMember

/-! ## Actions -/

/-- Is a value a builder? -/
def isBuilder (v : Value) : Bool :=
  match v.handle? with
  | some (.builder _) => true
  | _ => false

/-- Keeps what a call on `on` gave: under the name that was asked for. A builder that a builder gave
takes its place when no name was asked for. -/
def keepResult (on : String) (target result : Value) (name : Option String) : Script Unit := do
  match name with
  | some name => keep name result
  | none => if isBuilder target && isBuilder result then keep on result

open Place in
/-- The places for what a new alias is made from. -/
def aliasPlaces : List (Place Value) :=
  [needed "name", given "metadata" .null, given "table_path" .null, given "type" (.text "from")]

/-- A value as what is registered or stands behind an alias: an entity or another value, or nothing. -/
def subjectOf (v : Value) : Session (Option Registered) := do
  let w ← get
  if v.isNull then return none
  match v.handle? with
  | some (.entity id) => match w.entity? id with
    | some e => return some (.entity e)
    | none => return some (.other v)
  | _ => return some (.other v)

/-- Gives a builder's draft a new alias. -/
def createAlias (id : Nat) (args : List Value) (main foreign : Bool) : Session Unit := do
  match ← Session.ofResult (Place.fill aliasPlaces args []) with
  | [name, metadata, path, role] =>
    let subject ← subjectOf metadata
    Session.buildStep id (modify fun d =>
      let (a, scope) :=
        if foreign then d.scope.fresh name subject path role else d.scope.create name subject path role
      { d with scope := if main then scope.setMain a else scope })
  | _ => throw .wrongKind

/-- Makes a directory tree's file, and the directories above it. -/
def writeFile (path : String) (content : List UInt8) : Session Unit := do
  let s := (← get).storage
  let (r, files) := s.files.write (FilePath.names path) (.ok content)
  modify fun w => { w with storage := { w.storage with files } }
  Session.ofResult r

/-- The storage of a data source that has one. -/
def imageStorage : Session Storage := do
  if ← Session.keepsImage then return (← get).storage
  throw .noMember

/-- The point that a value names. -/
def hookOf (event : Value) : Result Hook :=
  match event.text?.bind Hook.ofWord? with
  | some h => .ok h
  | none => .error (.badValue (event.literal ++ " is not a valid BroadcastEvent"))

/-- Tells the subscribers, if there are any; only then the payloads are walked through. -/
def tell (event entity : Value) (payloads : Option Value) : Session Unit := do
  let hook ← Session.ofResult (hookOf event)
  if (← get).subscribers.isEmpty then return
  let payloads ← match payloads with
    | none | some .null => pure []
    | some v => match v.elements? with
      | some vs => pure vs
      | none => throw .wrongKind
  Session.broadcast hook (← subjectOf entity) payloads

/-- Makes a builder. -/
def build (args : List Term) (name : String) (given : Option String) : Script Value := do
  let args ← readAll args
  let b ← (Session.callMethod (.handle .source "" .null) "create_query_builder" args : Session Value)
  match given with
  | some r =>
    let r ← object r
    let _ ← (Session.callMethod b "set_query_runner" [r] : Session Value)
  | none => pure ()
  keep name b
  return b

/-- Performs an action. -/
def answer : Action → Script Value
  | .call on method args named name => do
    let target ← object on
    let args ← readAll args
    let named ← Term.readFields finder named
    let result ← (Session.callMethod target method args named : Session Value)
    keepResult on target result name
    return result
  | .read on field name => do
    let result ← (Session.readAttribute (← object on) field : Session Value)
    match name with
    | some name => keep name result
    | none => pure ()
    return result
  | .write on field v => do
    let target ← object on
    let v ← read v
    (Session.writeAttribute target field v : Session Unit)
    return .null
  | .build args name given => build args name given
  | .fail f => throw f
  | .register e => do
    let e ← (Session.ofResult e.read : Session Entity)
    let (e, world) := (← desk).world.register e
    changeWorld fun _ => world
    return e.toValue
  | .subscribe s => do
    changeWorld fun w => { w with subscribers := w.subscribers ++ [s] }
    return .null
  | .broadcast on event entity payloads => do
    let _ ← runner on
    let event ← read event
    let entity ← read entity
    let payloads ← payloads.mapM read
    (tell event entity payloads : Session Unit)
    return .null
  | .same a b => do return .bool ((← object a).sameObject (← object b) || a = b)
  | .display on => do return .text (← object on).literal
  | .flag on name => do
    let id ← builder on
    (Session.readAttribute (.handle (.draft id) "" .null) name : Session Value)
  | .findAlias on name => do
    let id ← builder on
    let name ← read name
    let h ← (Session.held id : Session HeldBuilder)
    return .ofOption ((h.builder.draft.scope.find? name).map (Alias.toValue id))
  | .createAlias on args main foreign => do
    let id ← builder on
    let args ← readAll args
    (createAlias id args main foreign : Session Unit)
    (Session.object (.draft id) : Session Value)
  | .storageMapping => do
    let s ← (imageStorage : Session Storage)
    if s.kind = .keyValue then return s.keeping.toValue else throw .noMember
  | .storageName => do return .text (← (imageStorage : Session Storage)).className
  | .files => return .record (← desk).world.storage.files.listing
  | .writeFile path content => do
    (writeFile path content : Session Unit)
    return .null
  | .failAfterConnect f => do
    changeWorld fun w => { w with afterConnect := some f }
    return .null
  | .idle => return .null

/-- Performs an action and prepares what its answer shows. -/
def perform (a : Action) : Script Value := do
  let v ← answer a
  (Session.showValue v : Session Unit)
  return v

/-- Runs further steps inside a block. -/
def inside (b : Block) (body : Script Unit) : Script Unit :=
  match b with
  | .transaction args name => do
    match ← (Session.ofResult (Place.fill [Session.spare "isolation_level"] (← readAll args) []) :
        Session (List Value)) with
    | [isolation] => Session.transaction isolation fun r => do
      keep name ((← desk).world.object (.runner r))
      body
    | _ => throw .wrongKind
  | .connected => Session.connected body
  | .exclusive on => do
    let _ ← runner on
    body

/-! ## Running -/

/-- Runs a step with an empty trace and an empty log, and gives what it added to them. -/
def apart {α : Type} (s : StateM Desk α) : StateM Desk (α × Effects) := do
  let before := (← get).world
  modify fun d => { d with world := { d.world with trace := [], logs := [] } }
  let a ← s
  let after := (← get).world
  modify fun d => { d with world := { d.world with trace := before.trace, logs := before.logs } }
  return (a, { trace := after.trace, logs := after.logs, views := after.view })

/-- Adds a report to the block under way. -/
def note (r : Report) : StateM Desk Unit := modify fun d => { d with inner := d.inner.map (· ++ [r]) }

mutual
/-- Runs a step and reports it. -/
def runStep : Step → StateM Desk Report
  | .act a _ => do
    let (answer, effects) ← apart (ExceptT.run (perform a))
    return .of answer effects none none
  | .block b _ body => do
    let outer := (← get).inner
    modify fun d => { d with inner := none }
    let (answer, effects) ← apart (ExceptT.run (inside b (do
      changeDesk fun d => { d with inner := some [] }
      runInside body)))
    let inner := (← get).inner
    modify fun d => { d with inner := outer }
    return .of (answer.map fun _ => .null) effects inner
      (inner.bind fun _ => b.runsOnItself)

/-- Runs the steps of a block; the failure of a step that throws leaves it. -/
def runInside : List Step → Script Unit
  | [] => pure ()
  | s :: rest => do
    let report ← (runStep s : StateM Desk Report)
    note report
    match s, report with
    | .act _ true, .of (.error f) _ _ _ => throw f
    | .block _ true _, .of (.error f) _ _ _ => throw f
    | _, _ => runInside rest
end

/-- Runs the steps of a script one after the other. -/
def runAll : List Step → StateM Desk (List Report)
  | [] => pure []
  | s :: rest => do
    let report ← runStep s
    let more ← runAll rest
    return report :: more

/-- Constructs the data source, and connects it when `connects`. -/
def openSource (d : SourceDeclaration) (connects : Bool) :
    StateM Desk (Result Value × Effects × Bool) := do
  let ((constructed, connected), effects) ← apart do
    let constructed ← ExceptT.run (onSession (Session.openSource d))
    match constructed, connects with
    | .ok _, true => do
      let connected ← ExceptT.run (onSession Session.connectSource)
      return (constructed, connected)
    | _, _ => return (constructed, .ok ())
  let w := (← get).world
  let answer : Result Value := do
    constructed
    connected
    return .record [("driver", .text w.dialect.driverName), ("name", w.sourceName)]
  return (answer, effects, constructed.toBool)

/-- Opens a session and runs a script on it; without a data source there are no reports. -/
def run (world : World) (d : SourceDeclaration) (connects : Bool) (steps : List Step) :
    Report × Option (List Report) :=
  let go : StateM Desk (Report × Option (List Report)) := do
    let (answer, effects, constructed) ← openSource d connects
    let first : Report := .of answer effects none none
    if constructed then
      let reports ← runAll steps
      return (first, some reports)
    return (first, none)
  (go.run { world }).1

end Script

end SqlWeave
