import SqlWeave.Statement.Outcome

/-!
# The order of an execution

What happens around one statement, and around a block of calls inside one transaction, is told over
the operations of any runner: a transaction is started only where none is active, events come before
and after the statement, and only what was started here is committed or rolled back here. The runner
is given back in every case when it was obtained for the call.
-/

namespace SqlWeave

/-- The operations of a runner that an execution uses. -/
structure RunnerOps (m : Type → Type) where
  isActive : m Bool
  start : m Unit
  commit : m Unit
  rollback : m Unit
  release : m Unit

/-- The operations of a runner inside a larger kind of call. -/
def RunnerOps.lift {n m : Type → Type} [MonadLiftT n m] (ops : RunnerOps n) : RunnerOps m where
  isActive := liftM ops.isActive
  start := liftM ops.start
  commit := liftM ops.commit
  rollback := liftM ops.rollback
  release := liftM ops.release

namespace Execution

variable {m : Type → Type} [Monad m] [MonadExceptOf Failure m] {α β : Type}

/-- Runs a call and gives its result as a value. -/
def attempt (s : m α) : m (Result α) :=
  tryCatchThe Failure (do return .ok (← s)) fun f => pure (.error f)

/-- The value of a result, or its failure. -/
def settle : Result α → m α
  | .ok a => pure a
  | .error f => throwThe Failure f

/-- Runs a call, then another one in every case. A failure of the second hides that of the first. -/
def andFinally (s : m α) (after : m Unit) : m α := do
  let r ← attempt s
  after
  settle r

/-- What is done between the start and the end of a transaction of a statement. -/
structure Steps (m : Type → Type) (α β : Type) where
  before : m Unit
  query : m α
  result : α → m β
  after : m Unit

/-- Makes the steps one after the other. -/
def Steps.run (steps : Steps m α β) : m β := do
  steps.before
  let answer ← steps.query
  let result ← steps.result answer
  steps.after
  return result

/-- The steps around a statement, and the commit of the transaction when it was `started` for them. -/
def body (ops : RunnerOps m) (steps : Steps m α β) (started : Bool) : m β := do
  let result ← steps.run
  if started then ops.commit
  return result

/-- Starts a transaction when one is wanted and none is active, and tells whether it did. -/
def startIfWanted (ops : RunnerOps m) (wanted : Bool) : m Bool := do
  if wanted then
    if ← ops.isActive then return false
    ops.start
    return true
  return false

/-- Rolls back; a failure of the rollback is only noted. -/
def tryRollback (ops : RunnerOps m) (noteRollback : Failure → m Unit) : m Unit := do
  match ← attempt ops.rollback with
  | .ok _ => pure ()
  | .error g => noteRollback g

/-- The steps and the commit after them. When one of them fails, what was `started` is rolled back. -/
def bodyOrRollback (ops : RunnerOps m) (noteRollback : Failure → m Unit) (steps : Steps m α β)
    (started : Bool) : m β := do
  match ← attempt (body ops steps started) with
  | .ok result => return result
  | .error f =>
    if started then tryRollback ops noteRollback
    throwThe Failure f

/-- Makes the steps of a statement, inside a transaction where one is wanted. -/
def makeSteps (ops : RunnerOps m) (wanted : Bool) (noteRollback : Failure → m Unit)
    (steps : Steps m α β) : m β := do
  let started ← startIfWanted ops wanted
  bodyOrRollback ops noteRollback steps started

/-- Runs a statement, and gives the runner back when it was `obtained` for it. -/
def statement (ops : RunnerOps m) (wanted obtained : Bool) (noteRollback : Failure → m Unit)
    (steps : Steps m α β) : m β :=
  andFinally (makeSteps ops wanted noteRollback steps) (if obtained then ops.release else pure ())

/-- Runs a block between the start and the end of a transaction, which the block may end by itself. -/
def runBlock (ops : RunnerOps m) (block : m α) : m α := do
  ops.start
  match ← attempt block with
  | .ok result =>
    if ← ops.isActive then ops.commit
    return result
  | .error f =>
    if ← ops.isActive then ops.rollback
    throwThe Failure f

/-- Runs a block inside one transaction, and gives the runner back. -/
def transaction (ops : RunnerOps m) (block : m α) : m α := andFinally (runBlock ops block) ops.release

end Execution

end SqlWeave
