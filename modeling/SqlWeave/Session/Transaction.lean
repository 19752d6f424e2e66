import SqlWeave.Session.Embedded

/-!
# Transactions of a runner

A runner has at most one explicit transaction. Subscribers are told before and after each of its
ends. An embedded database hands its changes to the automatic save when a transaction was committed,
and forgets them when it was rolled back.

The runner of an embedded database is shared, and has a lock, which a transaction holds from its start
to its end. Calls that take the lock only to give it back leave it as it was, and are told without it.
-/

namespace SqlWeave.Session

/-- Does the runner keep an image up to date? -/
def keepsImage : Session Bool := return (← get).dialect = .sqljs

/-! ## The lock of a shared runner -/

/-- Takes the lock of a runner that callers share; a server's runner has none. -/
def takeLock (r : Nat) : Session Unit :=
  modify fun w => if w.dialect.isNetwork then w else w.setLock r (w.locks r + 1)

/-- Gives the lock back, which fails when nobody holds it. -/
def dropLock (r : Nat) : Session Unit := do
  let w ← get
  if !w.dialect.isNetwork then
    if w.locks r = 0 then throw (.fault "RuntimeError" "cannot release un-acquired lock")
    modify (·.setLock r (w.locks r - 1))

/-- Makes a call while the lock is held. -/
def holding {α : Type} (r : Nat) (s : Session α) : Session α := do
  takeLock r
  andFinally s (dropLock r)

/-! ## Beginning and ending -/

/-- Opens a transaction, up to the point from which it is active. -/
def openTransaction (r : Nat) (isolation : Value) : Session Unit := do
  if (← runner r).active then raise (.problem .transactionActive none)
  broadcast .beforeStart
  let c ← connect r
  if ← inTransaction c then commit c
  if isolation.truth then setIsolation c isolation
  begin c
  changeRunner r fun x => { x with transaction := some c, active := true }
  log .debug "quarry.driver.query_runner" "Transaction started" [← sourceField]

/-- The start that all runners share. -/
def startOnly (r : Nat) (isolation : Value) : Session Unit := do
  openTransaction r isolation
  broadcast .afterStart

/-- A start takes the lock for the transaction, and gives it back when it fails. -/
def startTransaction (r : Nat) (isolation : Value := .null) : Session Unit := do
  takeLock r
  match ← attempt (startOnly r isolation) with
  | .ok _ => pure ()
  | .error f =>
    dropLock r
    throw f

/-- The connection that the active transaction was begun on. -/
def activeTransaction (r : Nat) : Session Nat := do
  let x ← runner r
  match x.active, x.transaction with
  | true, some c => pure c
  | _, _ => raise (.problem .transactionInactive none)

/-- Ends the active transaction by a commit. -/
def endByCommit (r : Nat) : Session Unit := do
  let c ← activeTransaction r
  broadcast .beforeCommit
  txCommit c
  changeRunner r fun x => { x with transaction := none, active := false }
  log .debug "quarry.driver.query_runner" "Transaction committed" [← sourceField]

/-- The commit that all runners share. -/
def commitOnly (r : Nat) : Session Unit := do
  endByCommit r
  broadcast .afterCommit

/-- Ends the active transaction by a rollback: it is over even when rolling back fails. -/
def endByRollback (r : Nat) : Session Unit := do
  let c ← activeTransaction r
  broadcast .beforeRollback
  andFinally (txRollback c) (changeRunner r fun x => { x with transaction := none, active := false })
  log .debug "quarry.driver.query_runner" "Transaction rolled back" [← sourceField]

/-- The rollback that all runners share. -/
def rollbackOnly (r : Nat) : Session Unit := do
  endByRollback r
  broadcast .afterRollback

/-- A commit gives the lock of the transaction back once it is done. -/
def commitTransaction (r : Nat) : Session Unit := do
  if ← keepsImage then
    holding r do
      commitOnly r
      dropLock r
      flush r
  else
    commitOnly r
    dropLock r

/-- A rollback gives the lock back when the transaction is over, whether or not it has failed. -/
def rollbackAndUnlock (r : Nat) : Session Unit := do
  let wasActive := (← runner r).active
  andFinally (rollbackOnly r) do
    if wasActive && !(← runner r).active then dropLock r

def rollbackTransaction (r : Nat) : Session Unit := do
  if ← keepsImage then
    holding r (andFinally (rollbackAndUnlock r) (changeRunner r fun x => { x with dirty := false }))
  else rollbackAndUnlock r

/-- Gives a runner back. A runner of a server closes its connection for good; a shared one stays
open, and hands its changes to the automatic save unless a transaction is active. -/
def release (r : Nat) : Session Unit := do
  match (← get).dialect with
  | .sqlite => pure ()
  | .sqljs => if !(← runner r).active then flush r
  | _ =>
    if !(← runner r).released then
      changeRunner r fun x => { x with released := true }
      closeConnection r

end SqlWeave.Session
