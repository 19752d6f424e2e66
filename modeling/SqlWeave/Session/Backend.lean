import SqlWeave.Session.World

/-!
# Calls on the backend

Each call is noted and may be told to fail; a call that fails changes nothing else. A connection is
in a transaction from its first statement or explicit beginning until the next commit, rollback or
close.
-/

namespace SqlWeave.Session

/-- Takes the next scripted failure of a kind of call, if there is one. -/
def fault (site : Site) : Session Unit := do
  match (← get).backend.faults site with
  | [] => pure ()
  | next :: rest =>
    modify fun w => w.changeBackend fun b =>
      { b with faults := fun s => if s = site then rest else b.faults s }
    match next with
    | some f => throw f
    | none => pure ()

/-- Reads the clock, which moves on with every reading. -/
def now : Session Double := do
  modify fun w => w.changeBackend fun b => { b with now := b.now + b.tick }
  return (← get).backend.now

/-! ## Engines -/

/-- Makes an engine. -/
def createEngine (url : Url) (options : Record) (native : Option Nat) : Session Nat := do
  emit (.createEngine url options)
  fault .createEngine
  let (e, engines) := (← get).backend.engines.add { native }
  modify fun w => w.changeBackend fun b => { b with engines }
  return e

/-- Drops all connections that an engine keeps. -/
def disposeEngine (e : Nat) : Session Unit := do
  emit .engineDispose
  modify fun w => w.changeBackend fun b =>
    { b with engines := b.engines.update e fun x => { x with disposed := true } }

/-- A connection from an engine. -/
def connectEngine (e : Nat) : Session Nat := do
  emit .engineConnect
  fault .connect
  let b := (← get).backend
  let (c, connections) := b.connections.add { native := (b.engines.get e).native }
  modify fun w => w.changeBackend fun b => { b with connections }
  return c

/-! ## Connections -/

def changeConnection (c : Nat) (f : Connection → Connection) : Session Unit :=
  modify fun w => w.changeBackend fun b => { b with connections := b.connections.update c f }

def inTransaction (c : Nat) : Session Bool := return ((← get).backend.connections.get c).inTransaction

def begin (c : Nat) : Session Unit := do
  emit (.begin c)
  fault .begin
  changeConnection c fun x => { x with inTransaction := true }

/-- Commits the explicit transaction of a connection. -/
def txCommit (c : Nat) : Session Unit := do
  emit (.txCommit c)
  fault .txCommit
  changeConnection c fun x => { x with inTransaction := false }

/-- Rolls the explicit transaction of a connection back. -/
def txRollback (c : Nat) : Session Unit := do
  emit (.txRollback c)
  fault .txRollback
  changeConnection c fun x => { x with inTransaction := false }

/-- Commits whatever transaction a connection is in. -/
def commit (c : Nat) : Session Unit := do
  emit (.commit c)
  fault .commit
  changeConnection c fun x => { x with inTransaction := false }

/-- Rolls back whatever transaction a connection is in. -/
def rollback (c : Nat) : Session Unit := do
  emit (.rollback c)
  fault .rollback
  changeConnection c fun x => { x with inTransaction := false }

def close (c : Nat) : Session Unit := do
  emit (.close c)
  fault .close
  changeConnection c fun x => { x with inTransaction := false, closed := true }

/-- Sets the isolation of a connection. -/
def setIsolation (c : Nat) (level : Value) : Session Unit := emit (.options c level)

/-- Takes the next scripted reply; an empty one when none is left. -/
def nextReply : Session Reply := do
  match (← get).backend.replies with
  | [] => pure {}
  | r :: rest =>
    modify fun w => w.changeBackend fun b => { b with replies := rest }
    pure r

/-- Executes a statement on a connection. -/
def exec (c : Nat) (sql : Value) (values : List Value) : Session Reply := do
  emit (.exec c sql values)
  changeConnection c fun x => { x with inTransaction := true }
  let reply ← nextReply
  match reply.failure with
  | some f => throw f
  | none =>
    if !reply.lastRowId.isNull then
      modify fun w => w.changeBackend fun b => { b with lastRowId := reply.lastRowId }
    match ((← get).backend.connections.get c).native with
    | some n =>
      modify fun w => w.changeBackend fun b => { b with natives := b.natives.update n Native.afterStatement }
    | none => pure ()
    pure reply

/-! ## Native databases -/

/-- Opens a native database; one that cannot be opened takes no number and leaves no event. -/
def nativeConnect (database : Value) : Session Nat := do
  fault .nativeConnect
  let (n, natives) := (← get).backend.natives.add {}
  modify fun w => w.changeBackend fun b => { b with natives }
  emit (.nativeConnect n database)
  return n

def nativeExecute (n : Nat) (sql : String) : Session Unit := do
  emit (.nativeExecute n sql)
  fault .nativeExecute

/-- The image of a native database. -/
def nativeSerialize (n : Nat) : Session (List UInt8) := do
  emit (.nativeSerialize n)
  fault .nativeSerialize
  return ((← get).backend.natives.get n).image

/-- Replaces the image of a native database. -/
def nativeDeserialize (n : Nat) (image : List UInt8) : Session Unit := do
  emit (.nativeDeserialize n image)
  fault .nativeDeserialize
  modify fun w => w.changeBackend fun b => { b with natives := b.natives.update n fun x => { x with image } }

def nativeClose (n : Nat) : Session Unit := do
  emit (.nativeClose n)
  modify fun w => w.changeBackend fun b =>
    { b with natives := b.natives.update n fun x => { x with closed := true } }

/-- The row that answers the question for the last row id, if there is one. -/
def fetchRowId : Session (Option (List Value)) := do
  match (← get).backend.rowIds with
  | none => return some [(← get).backend.lastRowId]
  | some [] => return none
  | some (row :: rest) =>
    modify fun w => w.changeBackend fun b => { b with rowIds := some rest }
    return row

end SqlWeave.Session
