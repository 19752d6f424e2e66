import SqlWeave.Proofs.Session.BlockTransaction
import SqlWeave.Proofs.Session.Course
import SqlWeave.Proofs.Session.FirstFailure

/-!
# How a block inside a transaction is settled

After the body of a block one call at most is made to end its transaction: a commit when the body has ended well, a
rollback when it has failed, and neither when the transaction is not active any more. Then the runner is given back.
Each of these calls may fail, and none of their failures is caught, so that the last one is what leaves the block.

Main result: the calls that are made, what the backend is told by them, and how the block ends, for a body that may do
anything. The body's own failure leaves the block exactly when neither the rollback nor the return of the runner fails.
-/

namespace SqlWeave

open Session Execution

open World (Tells Quiet Relocked SameLock SameHook Hooked)

variable {α : Type} {r : Nat} {isolation : Value} {u v w w₁ : World}

/-! ## Rolling back -/

/-- What stops a rollback of runner `r` before the backend is told, if anything does: there is no transaction that can
be ended, or the hook before it fails. -/
def World.rollbackStop? (w : World) (r : Nat) : Option Failure :=
  if w.activeAt r && (w.runners.get r).transaction.isSome then w.refusal? .beforeRollback
  else some (.problem .transactionInactive none)

/-- What a rollback of runner `r` fails with, if it does: something stops it, or the lock that it gives back is not held
any more, or the backend fails, or the hook after it. -/
def World.rollbackFault? (w : World) (r : Nat) : Option Failure :=
  (w.rollbackStop? r).or ((w.lockFault? r).or ((w.fault? .txRollback).or (w.refusal? .afterRollback)))

namespace Session

theorem rollbackStop?_of_endable (h : w.endable r) : w.rollbackStop? r = w.refusal? .beforeRollback :=
  if_pos (Bool.and_eq_true_iff.mpr h)

theorem rollbackStop?_of_not_endable (h : ¬ w.endable r) :
    w.rollbackStop? r = some (.problem .transactionInactive none) :=
  if_neg fun hand => h (Bool.and_eq_true_iff.mp hand)

theorem letsRollback_iff (r : Nat) (w : World) : w.letsRollback r ↔ w.rollbackStop? r = none := by
  unfold World.letsRollback
  by_cases hend : w.endable r
  · rw [rollbackStop?_of_endable hend]
    exact and_iff_right hend
  · rw [rollbackStop?_of_not_endable hend]
    exact iff_of_false (fun h => hend h.1) (Option.some_ne_none _)

theorem rollbackStop?_of_relocked (h : Relocked w u) : u.rollbackStop? r = w.rollbackStop? r := by
  rw [World.rollbackStop?, World.rollbackStop?, World.activeAt, World.activeAt, h.runners, (h.hook _).refusal?]

/-- Where there is no transaction, that is what is raised. -/
theorem result_activeTransaction (h : ¬ w.endable r) :
    (ends (activeTransaction r) w).1 = .error (.problem .transactionInactive none) := by
  obtain ⟨v, hv⟩ := ends_raise (α := Nat) (.problem .transactionInactive none) w
  unfold activeTransaction
  rw [ends_bind_ok (ends_runner r w)]
  split
  · next hactive htransaction => exact absurd ⟨hactive, by rw [htransaction]; rfl⟩ h
  · rw [hv]

/-- What is done of a rollback once the hook before it has passed. -/
theorem result_rolledBack {c : Nat} : (ends (do
      andFinally (txRollback c) (changeRunner r fun x => { x with transaction := none, active := false })
      log .debug "quarry.driver.query_runner" "Transaction rolled back" [← sourceField]
      broadcast .afterRollback) w).1 = passes ((w.fault? .txRollback).or (w.refusal? .afterRollback)) := by
  obtain ⟨q, hq, hover⟩ := ends_txRollback_ended r c w
  cases hfault : w.fault? .txRollback with
  | some f =>
    rw [hfault] at hover
    rw [ends_bind_error hover]
    rfl
  | none =>
    rw [hfault] at hover
    rw [ends_bind_ok hover, ends_bind_ok (ends_sourceField _), ends_bind_ok (ends_log ..), result_broadcast,
      Option.none_or, ← (hq.hook .afterRollback).refusal?]
    rfl

/-- A rollback up to the return of the lock. -/
theorem result_rollbackOnly (r : Nat) (w : World) : (ends (rollbackOnly r) w).1 =
    passes ((w.rollbackStop? r).or ((w.fault? .txRollback).or (w.refusal? .afterRollback))) := by
  unfold rollbackOnly endByRollback
  simp only [bind_assoc]
  by_cases hend : w.endable r
  · rw [rollbackStop?_of_endable hend]
    obtain ⟨c, hc⟩ := ((activeTransaction_cases r w).resolve_right fun h => h.1 hend).2
    have hooked : Hooked .beforeRollback (SameHook .afterRollback) := SameHook.hooked (by decide)
    rw [ends_bind_ok hc]
    rcases broadcast_cases .beforeRollback r w with ⟨f, v, hr, hv, hb⟩ | ⟨v, hr, hv, hb⟩
    · rw [ends_bind_error hb, hr]
      rfl
    · have hhook : SameHook .afterRollback w v := (moves_broadcast ..).of_ends hb
      rw [ends_bind_ok hb, hr, Option.none_or, ← hv.fault? rfl, ← hhook.refusal?]
      exact result_rolledBack
  · rw [ends_bind_error (ends_eq_of_result (result_activeTransaction hend)), rollbackStop?_of_not_endable hend]
    rfl

theorem outlived_passes (failure failure' : Option Failure) :
    outlived failure (passes failure') = passes (failure.or failure') := by
  cases failure <;> rfl

/-- The lock of a transaction is given back where it is over, and where nobody holds the lock, that is what the rollback
ends with. -/
theorem rollbackAndUnlock_course (r : Nat) (w : World) :
    (ends (rollbackAndUnlock r) w).1 = passes (w.rollbackFault? r) ∧
    (w.letsRollback r → ∃ v, SameLock r w v ∧ (ends (rollbackAndUnlock r) w).2 = v.unlocked r) ∧
    (¬ w.letsRollback r → SameLock r w (ends (rollbackAndUnlock r) w).2) := by
  have hlock : SameLock r w (ends (rollbackOnly r) w).2 := (turns_rollbackOnly r).along w
  have hresult := result_rollbackOnly r w
  rw [ends_rollbackAndUnlock]
  unfold World.rollbackFault?
  rcases rollbackOnly_cases r w with ⟨hl, ha⟩ | ⟨hl, f, v, hs, he⟩
  · rw [(letsRollback_iff r w).mp hl, Option.none_or] at hresult
    rw [hl.1.1, ha, (letsRollback_iff r w).mp hl, Option.none_or, ← outlived_passes, ← hresult, ← hlock.lockFault?]
    exact ⟨rfl, fun _ => ⟨_, hlock, rfl⟩, fun h => absurd hl h⟩
  · obtain ⟨g, hg⟩ := Option.ne_none_iff_exists'.mp ((letsRollback_iff r w).not.mp hl)
    rw [hg] at hresult ⊢
    have hactive : (w.activeAt r && !(ends (rollbackOnly r) w).2.activeAt r) = false := by
      rw [he, hs.activeAt, Bool.and_not_self]
    rw [hactive, if_neg Bool.false_ne_true]
    exact ⟨hresult, fun h => absurd h hl, fun _ => hlock⟩

theorem result_rollbackTransaction (r : Nat) (w : World) :
    (ends (rollbackTransaction r) w).1 = passes (w.rollbackFault? r) := by
  rw [ends_rollbackTransaction]
  split
  case isFalse => exact (rollbackAndUnlock_course r w).1
  -- The lock is taken once more: what is given back too often is this hold of it.
  have hrelocked := World.relocked_locked w r
  obtain ⟨hresult, hover, hstopped⟩ := rollbackAndUnlock_course r (w.locked r)
  have hstop : (w.locked r).rollbackStop? r = w.rollbackStop? r := rollbackStop?_of_relocked hrelocked
  have hclean (v : World) : SameLock r v (v.changeRunner r fun x => { x with dirty := false }) := ⟨rfl, rfl⟩
  rw [World.rollbackFault?, hstop, World.lockFault?_locked, Option.none_or, hrelocked.fault?,
    (hrelocked.hook _).refusal?] at hresult
  rw [ends_holding, ends_andFinally, ends_changeRunner]
  show outlived _ (ends (rollbackAndUnlock r) (w.locked r)).1 = _
  rw [hresult, outlived_passes, (hclean _).lockFault?]
  unfold World.rollbackFault?
  cases hs : w.rollbackStop? r with
  | none =>
    have hl : (w.locked r).letsRollback r := (letsRollback_iff r _).mpr (hstop.trans hs)
    obtain ⟨v, hv, he⟩ := hover hl
    rw [he, hv.unlocked.lockFault?]
    rfl
  | some f =>
    have hl : ¬ (w.locked r).letsRollback r := by
      rw [letsRollback_iff, hstop, hs]
      exact Option.some_ne_none f
    rw [(hstopped hl).lockFault?, World.lockFault?_locked]
    rfl

/-! ## After the body -/

/-- The call that ends the transaction of a block whose body has ended with `result` in world `v`, and what this call
fails with: a commit, or a rollback when the body has failed. Where no transaction is active there is no such call. -/
def ownEnd (r : Nat) (v : World) (result : Result α) : Option Made :=
  if v.activeAt r then
    match result with
    | .ok _ => some (.commit, failure? (ends (commitTransaction r) v).1)
    | .error _ => some (.rollback, v.rollbackFault? r)
  else none

/-- What the backend is told of the end of a block's transaction, after a body that has ended with `result`. -/
inductive EndTold : Result α → List Event → Prop
  | nothing (result : Result α) : EndTold result []
  | commit (a : α) (c : Nat) : EndTold (.ok a) [.txCommit c]
  | rollback (f : Failure) (c : Nat) : EndTold (.error f) [.txRollback c]

theorem ends_isActive (r : Nat) (isolation : Value) (v : World) :
    ends (runnerOps r isolation).isActive v = (.ok (v.activeAt r), v) := rfl

/-- A call before a result that is told either hides it with a failure, or leaves it as it is. -/
theorem ends_before {s : Session Unit} {failure : Option Failure} (h : (ends s v).1 = passes failure)
    (result : Result α) : ends (s >>= fun _ => (MonadExcept.ofExcept result : Session α)) v =
      (outlived failure result, (ends s v).2) := by
  cases failure with
  | some f => exact ends_bind_error (ends_eq_of_result h)
  | none => rw [ends_bind_ok (ends_eq_of_result h), ends_ofExcept, outlived]

/-- What follows a body is one call that ends its transaction, or nothing. -/
theorem ends_afterBlock (r : Nat) (isolation : Value) (result : Result α) (v : World) :
    ends (afterBlock r isolation result) v =
      (outlived ((ownEnd r v result).bind Prod.snd) result,
        if v.activeAt r then
          match result with
          | .ok _ => (ends (commitTransaction r) v).2
          | .error _ => (ends (rollbackTransaction r) v).2
        else v) := by
  unfold ownEnd
  cases result with
  | ok a =>
    unfold afterBlock
    rw [ends_bind_ok (ends_isActive r isolation v)]
    cases v.activeAt r with
    | false => rfl
    | true => exact ends_before (passes_failure? _).symm (.ok a)
  | error f =>
    unfold afterBlock
    rw [ends_bind_ok (ends_isActive r isolation v)]
    cases v.activeAt r with
    | false => rfl
    | true => exact ends_before (result_rollbackTransaction r v) (.error f)

/-- After the body the backend is told one end of its transaction at most, and a commit only when the body has ended
well. -/
theorem tells_afterBlock (r : Nat) (isolation : Value) (result : Result α) (v : World) :
    ∃ told, EndTold result told ∧ Tells told v (ends (afterBlock r isolation result) v).2 := by
  have hnothing : Tells [] v v := refl_of (Tells []) v
  rw [ends_afterBlock]
  cases v.activeAt r with
  | false => exact ⟨[], .nothing result, hnothing⟩
  | true =>
    cases result with
    | ok a =>
      rcases tells_commitTransaction r v with hquiet | ⟨c, htells, -⟩
      · exact ⟨[], .nothing _, hquiet.tells⟩
      · exact ⟨[.txCommit c], .commit a c, htells⟩
    | error f =>
      rcases tells_rollbackTransaction r v with hquiet | ⟨c, -, -, -, htells⟩
      · exact ⟨[], .nothing _, hquiet.tells⟩
      · exact ⟨[.txRollback c], .rollback f c, htells⟩

/-- What follows a body, as its calls are entered in a journal. -/
def journaledAfter (r : Nat) (isolation : Value) : Result α → Journaled α
  | .ok a => do
    if ← (runnerOps r isolation).journaled.isActive then (runnerOps r isolation).journaled.commit
    return a
  | .error f => do
    if ← (runnerOps r isolation).journaled.isActive then (runnerOps r isolation).journaled.rollback
    throw f

theorem records_afterBlock (r : Nat) (isolation : Value) (result : Result α) (v : World) :
    Journaled.Records v (journaledAfter r isolation result) (afterBlock r isolation result)
      (ownEnd r v result).toList := by
  have hactive := Journaled.Records.unnoted (w := v) (runnerOps r isolation).isActive
  unfold ownEnd
  cases result with
  | ok a =>
    refine hactive.bind_ok (ends_isActive r isolation v) ?_
    cases v.activeAt r with
    | false => exact .pure a
    | true =>
      have hcommit := Journaled.Records.noted (w := v) .commit (commitTransaction r)
      rcases hends : ends (commitTransaction r) v with ⟨f | b, x⟩
      · rw [hends] at hcommit
        exact hcommit.bind_error hends
      · rw [hends] at hcommit
        exact hcommit.bind_ok hends (.pure a)
  | error f =>
    refine hactive.bind_ok (ends_isActive r isolation v) ?_
    cases v.activeAt r with
    | false => exact .throw f
    | true =>
      have hrollback := Journaled.Records.noted (w := v) .rollback (rollbackTransaction r)
      rw [result_rollbackTransaction, failure?_passes] at hrollback
      rcases hends : ends (rollbackTransaction r) v with ⟨g | b, x⟩
      · exact hrollback.bind_error hends
      · exact hrollback.bind_ok hends (.throw f)

/-! ## The block -/

/-- A block in a transaction of runner `r` makes these calls on it, beside those of its body: with a journal of them, it
ends as it does without. -/
def TransactsBy (isolation : Value) (block : Nat → Session α) (w : World) (r : Nat) (w₁ : World)
    (made : List Made) : Prop :=
  Journaled.outcome (Execution.transaction (runnerOps r isolation).journaled (Journaled.unnoted (block r))) w₁ [] =
    ((ends (transaction isolation block) w).1, (ends (transaction isolation block) w).2, made)

/-- What giving the runner of a block back fails with, if it does, when the body has ended with `result` in world
`v`. -/
def returnFault? (r : Nat) (isolation : Value) (result : Result α) (v : World) : Option Failure :=
  (ends (afterBlock r isolation result) v).2.releaseFault? r

section
variable {block : Nat → Session α} {result : Result α}

/-- Where a block ends whose transaction was started: after its body comes the end of the transaction, and then the
return of the runner. -/
theorem ends_transaction (hobtained : ends createRunner w = (.ok r, w₁))
    (hstarted : ends (startTransaction r isolation) w₁ = (.ok ⟨⟩, u)) (hbody : ends (block r) u = (result, v)) :
    ends (transaction isolation block) w =
      ends (Execution.andFinally (afterBlock r isolation result) (release r)) v := by
  have hrun : ends (transaction isolation block) w =
      ends (Execution.transaction (runnerOps r isolation) (block r)) w₁ := ends_bind_ok hobtained
  have hblock : ends (runBlock (runnerOps r isolation) (block r)) w₁ = ends (afterBlock r isolation result) v := by
    rw [runBlock_eq, ends_bind_ok hstarted, ends_bind_ok (ends_execution_attempt ..), hbody]
  rw [hrun]
  unfold Execution.transaction
  rw [ends_execution_andFinally, ends_execution_andFinally, hblock]
  rfl

theorem records_transaction (hstarted : ends (startTransaction r isolation) w₁ = (.ok ⟨⟩, u))
    (hbody : ends (block r) u = (result, v)) : Journaled.Records w₁
      (Execution.transaction (runnerOps r isolation).journaled (Journaled.unnoted (block r)))
      (Execution.transaction (runnerOps r isolation) (block r))
      ((.start, none) :: ((ownEnd r v result).toList ++ [(.release, returnFault? r isolation result v)])) := by
  have hstart := Journaled.Records.noted (w := w₁) .start (startTransaction r isolation)
  have hattempt := (Journaled.Records.unnoted (w := u) (block r)).attempt
  have hends : ends (Execution.attempt (block r)) u = (.ok result, v) := by rw [ends_execution_attempt, hbody]
  rw [hstarted] at hstart
  have hrun : Journaled.Records w₁ (runBlock (runnerOps r isolation).journaled (Journaled.unnoted (block r)))
      (runBlock (runnerOps r isolation) (block r)) ((.start, none) :: (ownEnd r v result).toList) := by
    refine hstart.bind_ok hstarted (hattempt.bind_ok hends ?_)
    cases result with
    | ok a => exact records_afterBlock r isolation (.ok a) v
    | error f => exact records_afterBlock r isolation (.error f) v
  have hworld : (ends (runBlock (runnerOps r isolation) (block r)) w₁).2 =
      (ends (afterBlock r isolation result) v).2 := by
    rw [runBlock_eq, ends_bind_ok hstarted, ends_bind_ok hends]
  have hrelease := Journaled.Records.noted (w := (ends (runBlock (runnerOps r isolation) (block r)) w₁).2) .release
    (release r)
  rw [result_release, failure?_passes] at hrelease
  rw [returnFault?, ← hworld]
  exact hrun.andFinally hrelease

/-- **A block is settled once.** Of a block whose transaction was started, and whose body has ended with `result`, one
call at most ends the transaction: a commit after a body that has ended well, a rollback after one that has failed, and
neither where no transaction is active any more. Then the runner is given back. The backend is told of no end before
the body, and after it of one at most, which is a commit only when the body has ended well. The block ends as its body
has, unless one of these calls fails; then it ends with the failure of the last that does. -/
theorem block_settled_once (isolation : Value) (block : Nat → Session α) (result : Result α) {w w₁ u v : World}
    {r : Nat} (hobtained : ends createRunner w = (.ok r, w₁))
    (hstarted : ends (startTransaction r isolation) w₁ = (.ok ⟨⟩, u)) (hbody : ends (block r) u = (result, v)) :
    TransactsBy isolation block w r w₁
      ((.start, none) :: ((ownEnd r v result).toList ++ [(.release, returnFault? r isolation result v)])) ∧
    Tells [] w u ∧ (∃ told, EndTold result told ∧ Tells told v (ends (transaction isolation block) w).2) ∧
    (ends (transaction isolation block) w).1 =
      outlived ((returnFault? r isolation result v).or ((ownEnd r v result).bind Prod.snd)) result := by
  have hends : ends (transaction isolation block) w =
      ends (Execution.andFinally (afterBlock r isolation result) (release r)) v :=
    ends_transaction hobtained hstarted hbody
  refine ⟨?_, ?_, ?_, ?_⟩
  · have hrun : ends (transaction isolation block) w =
        ends (Execution.transaction (runnerOps r isolation) (block r)) w₁ := ends_bind_ok hobtained
    unfold TransactsBy
    rw [records_transaction hstarted hbody [], hrun]
    rfl
  · have hobtain : Quiet w w₁ := (moves_createRunner (R := Quiet) usualMode).of_ends hobtained
    have hstart : Quiet w₁ u := (turns_startTransaction r isolation).of_ends hstarted
    exact (trans_of Quiet hobtain hstart).tells
  · obtain ⟨told, hend, htells⟩ := tells_afterBlock r isolation result v
    have hrelease : Quiet _ (ends (release r) (ends (afterBlock r isolation result) v).2).2 := (moves_release r).along _
    refine ⟨told, hend, ?_⟩
    rw [hends, world_andFinally]
    exact hrelease.trans_tells htells
  · have hrelease := result_release r (ends (afterBlock r isolation result) v).2
    have hfault : returnFault? r isolation result v = (ends (afterBlock r isolation result) v).2.releaseFault? r := rfl
    rw [hends, hfault]
    cases hlost : (ends (afterBlock r isolation result) v).2.releaseFault? r with
    | some g =>
      rw [hlost] at hrelease
      exact result_andFinally_of_error hrelease
    | none =>
      rw [hlost] at hrelease
      rw [result_andFinally_of_ok hrelease, ends_afterBlock, Option.none_or]

end

end Session

/-- A data source whose backend turns the next rollback of a transaction down. -/
def World.refusingRollbacks : World :=
  { initialized := true
    live := some 1
    engine := some 0
    backend := { faults := fun site =>
      if site = .txRollback then [some (.fault "OperationalError" "disk full")] else [] } }

/-- The body has failed, and the failure of the rollback is what leaves the block. -/
theorem Session.lost_rollback_hides_failure :
    let boom : Failure := .fault "RuntimeError" "boom"
    let full : Failure := .fault "OperationalError" "disk full"
    let block : Nat → Session Unit := fun _ => throw boom
    let u := (ends (startTransaction 0 .null) (ends createRunner .refusingRollbacks).2).2
    TransactsBy .null block .refusingRollbacks 0 (ends createRunner .refusingRollbacks).2
      [(.start, none), (.rollback, some full), (.release, none)] ∧
    (∃ told, EndTold (.error boom : Result Unit) told ∧
      Tells told u (ends (transaction .null block) .refusingRollbacks).2) ∧
    (ends (transaction .null block) .refusingRollbacks).1 = .error full := by
  intro boom full block u
  obtain ⟨hmade, -, htold, hresult⟩ := block_settled_once .null block (.error boom) (w := .refusingRollbacks) (r := 0)
    (u := u) (v := u) rfl rfl rfl
  exact ⟨hmade, htold, hresult⟩

/-- An embedded database, whose second start of a transaction is turned down by the hook after it. -/
def World.refusingSecondStart : World :=
  { dialect := .sqlite
    initialized := true
    live := some 1
    engine := some 0
    subscribers := [{ hooks := ["after_transaction_start"] }]
    hookFaults := fun _ h => if h = .afterStart then [none, some (.fault "RuntimeError" "boom")] else [] }

/-- A body that commits, and fails to start again, leaves a transaction that holds no lock: the rollback of the block
cannot give the lock back, and its failure is what leaves the block. -/
example : (ends (transaction .null fun r => do commitTransaction r; startTransaction r) .refusingSecondStart).1 =
    .error (.fault "RuntimeError" "cannot release un-acquired lock") := rfl

end SqlWeave
