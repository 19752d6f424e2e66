import SqlWeave.Session.Backend
import SqlWeave.Session.Broadcast

/-!
# Checking connections out

A runner takes its connection from the engine when it first needs one, and gives it back when it
closes. Closing also forgets the runner's transaction.
-/

namespace SqlWeave.Session

/-- A connection from the current engine. -/
def obtainConnection : Session Nat := do
  let w ← get
  match w.engine with
  | none => raise (Failure.notConnected w.sourceName)
  | some e => connectEngine e

/-- The runner's connection, checked out when it has none. -/
def connect (r : Nat) : Session Nat := do
  let x ← runner r
  if x.released then raise (.problem .runnerReleased none)
  match x.connection with
  | some c => pure c
  | none =>
    let c ← obtainConnection
    changeRunner r fun x => { x with connection := some c }
    pure c

/-- Gives the connection back. The runner lets go of it, and of its transaction, before the close
that may fail. -/
def closeConnection (r : Nat) : Session Unit := do
  let x ← runner r
  changeRunner r fun x => { x with connection := none, transaction := none, active := false }
  match x.connection with
  | some c => close c
  | none => pure ()

end SqlWeave.Session
