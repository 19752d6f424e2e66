import SqlWeave.Proofs.Session.Flag

/-!
# The transaction of a block

A block inside a transaction may do anything, and may end the transaction by itself. Afterwards an active
transaction is committed, or rolled back when the block has failed. The cases in which it stays open are
told exactly: the start fails after the transaction has begun, or the commit at the end is turned down, or
the hook before the rollback fails. On a server the connection is closed when the runner is given back,
which ends the transaction after all.
-/

namespace SqlWeave

open Session Execution

open World (SameSetting)

variable {α : Type}

/-- Does the end of a block keep its transaction open? A commit, or a rollback after a failure, ends it
where it gets that far, and so does a runner that closes its connection. -/
def KeepsOpen (r : Nat) : Result α × World → Prop
  | (.ok _, v) => v.activeAt r = true ∧ ¬ v.letsCommit r ∧ ¬ v.closes r
  | (.error _, v) => v.activeAt r = true ∧ ¬ v.letsRollback r ∧ ¬ v.closes r

/-- What follows a block that has ended with `result`: the transaction is ended if it is active. -/
def afterBlock (r : Nat) (isolation : Value) : Result α → Session α
  | .ok a => do
    if ← (runnerOps r isolation).isActive then (runnerOps r isolation).commit
    return a
  | .error f => do
    if ← (runnerOps r isolation).isActive then (runnerOps r isolation).rollback
    throw f

theorem runBlock_eq (r : Nat) (isolation : Value) (block : Session α) :
    runBlock (runnerOps r isolation) block =
      startTransaction r isolation >>= fun _ => Execution.attempt block >>= afterBlock r isolation := by
  unfold runBlock
  refine congrArg (startTransaction r isolation >>= ·) (funext fun _ => ?_)
  refine congrArg (Execution.attempt block >>= ·) (funext fun result => ?_)
  cases result <;> rfl

theorem moves_afterBlock (r : Nat) (isolation : Value) (result : Result α) :
    Moves SameSetting (afterBlock r isolation result) := by
  have active : Moves SameSetting (runnerOps r isolation).isActive :=
    (moves_runner r).bind fun _ => .pure _
  cases result with
  | ok a => exact active.bind fun _ => .guarded (moves_commitTransaction r) (.pure a)
  | error f => exact active.bind fun _ => .guarded (moves_rollbackTransaction r) (.throw f)

theorem keepsOpen_iff (r : Nat) (isolation : Value) (result : Result α) (v : World) :
    (ends (afterBlock r isolation result) v).2.activeAt r = true ∧
      ¬ (ends (afterBlock r isolation result) v).2.closes r ↔ KeepsOpen r (result, v) := by
  have hact : ends (runnerOps r isolation).isActive v = (.ok (v.activeAt r), v) := rfl
  rw [((moves_afterBlock r isolation result).along v).closes_iff]
  cases result with
  | ok a =>
    have hc := activeAt_commitTransaction r v
    unfold afterBlock KeepsOpen
    rw [ends_bind_ok hact]
    cases ha : v.activeAt r with
    | true =>
      rw [if_pos rfl, activeAt_bind (fun _ => .pure a)]
      exact (and_congr_left' hc).trans and_assoc
    | false => simp [ha]
  | error f =>
    have hc := activeAt_rollbackTransaction r v
    unfold afterBlock KeepsOpen
    rw [ends_bind_ok hact]
    cases ha : v.activeAt r with
    | true =>
      rw [if_pos rfl, activeAt_bind (fun _ => .throw f)]
      exact (and_congr_left' hc).trans and_assoc
    | false => simp [ha]

/-- When a block inside a transaction leaves the transaction open, for a block that may do anything. The
runner was obtained without one. On a runner that does not close its connection afterwards, it stays open
when the start fails in a hook after it has begun, and when the block ends with an active transaction that
the commit, or after a failure the rollback, does not get to end. -/
theorem activeAt_transaction_iff (isolation : Value) (block : Nat → Session α) {w w₁ : World} {r : Nat}
    (hobtained : ends createRunner w = (.ok r, w₁)) (hinactive : w₁.activeAt r = false) :
    (ends (transaction isolation block) w).2.activeAt r = true ↔
      w₁.begins r isolation ∧
        (w₁.refusal? .afterStart ≠ none ∧ ¬ w₁.dialect.isNetwork ∨
          w₁.refusal? .afterStart = none ∧
            KeepsOpen r (ends (block r) (ends (startTransaction r isolation) w₁).2)) := by
  have hrun : ends (transaction isolation block) w =
      ends (Execution.transaction (runnerOps r isolation) (block r)) w₁ := ends_bind_ok hobtained
  rw [hrun]
  unfold Execution.transaction
  rw [world_andFinally, runBlock_eq]
  show (ends (release r) _).2.activeAt r = true ↔ _
  rw [activeAt_release]
  rcases startTransaction_cases r isolation w₁ with ⟨hb, c, u, v, -, hv, he⟩ | ⟨hb, f, v, hv, he⟩
  · have hset : SameSetting w₁ v := (moves_startTransaction r isolation).of_ends he
    cases hr : w₁.refusal? .afterStart with
    | some f =>
      -- The start has failed after the transaction has begun: the block is skipped, and nobody rolls back.
      have hcloses : v.closes r ↔ w₁.dialect.isNetwork := by
        rw [hset.closes_iff, World.closes, unreleased_of_begins hb]
        simp
      have hactive : v.activeAt r = true := by
        rw [hv.standing.activeAt, World.activeAt_changeRunner]
        rfl
      rw [hr] at he
      rw [ends_bind_error he]
      simp [hb, hactive, hcloses]
    | none =>
      rw [hr] at he
      rw [ends_bind_ok he, ends_bind_ok (ends_execution_attempt _ v), he]
      rcases ends (block r) v with ⟨result, x⟩
      refine (keepsOpen_iff r isolation result x).trans ?_
      simp [hb]
  · rw [ends_bind_error he, hv.activeAt, hinactive]
    simp [hb]

/-- A data source whose backend turns the next commit of a transaction down. -/
def World.refusingCommits : World :=
  { initialized := true
    live := some 1
    engine := some 0
    backend := { faults := fun site =>
      if site = .txCommit then [some (.fault "OperationalError" "disk full")] else [] } }

/-- The commit at the end of an empty block is turned down, and the shared runner keeps the transaction
open. -/
theorem transaction_refusingCommits :
    (ends (transaction .null fun _ => (pure () : Session Unit)) .refusingCommits).2.activeAt 0 = true :=
  (activeAt_transaction_iff .null _ (w := .refusingCommits) rfl rfl).mpr
    ⟨rfl, Or.inr ⟨rfl, rfl, fun h => Option.some_ne_none _ h.2.2,
      fun h => Bool.false_ne_true h.1⟩⟩

end SqlWeave
