import SqlWeave.Proofs.Session.Lifecycle
import SqlWeave.Proofs.Session.RunnerInvariant
import SqlWeave.Proofs.Session.Visits

/-!
# Calls for one runner

Whatever is done with a runner leaves the other runners alone: `World.Touches`. Statements and transactions do
besides not release their runner, and close no connection: `World.Attends`. The calls of a data source that run
statements are a `StatementCall`; with a runner that the caller has given they do no more than that.
-/

namespace SqlWeave

open Session Execution World

namespace World

/-- Between the worlds no other runner than `r` was changed, none was made, and what was told is still told. -/
structure Touches (r : Nat) (w v : World) : Prop where
  dialect : v.dialect = w.dialect
  next : v.runners.next = w.runners.next
  others : ∀ i, i ≠ r → v.runners.get i = w.runners.get i
  trace : w.trace <+: v.trace

/-- Between the worlds runner `r` was used, but not released, and no connection was closed. -/
structure Attends (r : Nat) (w v : World) : Prop extends Touches r w v where
  released : (v.runners.get r).released = (w.runners.get r).released
  unclosed : ∃ events, v.trace = w.trace ++ events ∧ ∀ e ∈ events, e.closed? = none

variable {r : Nat} {u v w : World}

namespace Touches

instance : IsPreorder World (Touches r) where
  refl _ := ⟨rfl, rfl, fun _ _ => rfl, List.prefix_rfl⟩
  trans _ _ _ h h' := ⟨h'.dialect.trans h.dialect, h'.next.trans h.next,
    fun i hi => (h'.others i hi).trans (h.others i hi), h.trace.trans h'.trace⟩

theorem of_changeRunner (w : World) (f : Runner → Runner) : Touches r w (w.changeRunner r f) where
  dialect := rfl
  next := rfl
  others i hi := by rw [changeRunner_get, if_neg hi.symm]
  trace := List.prefix_rfl

/-- A runner that lets go of its connection. -/
theorem of_detaches (h : Detaches r w v) : Touches r w v := by
  have hchange : Touches r w (w.changeRunner r .detached) := of_changeRunner w .detached
  unfold Detaches at h
  split at h
  · refine trans_of (Touches r) hchange ⟨h.dialect, by rw [h.runners], fun i _ => by rw [h.runners], ?_⟩
    rw [h.trace]
    exact List.prefix_append ..
  · rw [h]
    exact hchange

end Touches

namespace Attends

/-- A step that leaves the runners alone, and tells of no connection that is closed. -/
theorem of_notes (events : List Event) (htrace : v.trace = w.trace ++ events)
    (hclosed : ∀ e ∈ events, e.closed? = none) (hdialect : v.dialect = w.dialect) (hrunners : v.runners = w.runners) :
    Attends r w v where
  dialect := hdialect
  next := by rw [hrunners]
  others i _ := by rw [hrunners]
  trace := ⟨events, htrace.symm⟩
  released := by rw [hrunners]
  unclosed := ⟨events, htrace, hclosed⟩

instance : IsPreorder World (Attends r) where
  refl w := of_notes [] (List.append_nil _).symm (by simp) rfl rfl
  trans _ _ _ h h' :=
    ⟨trans_of (Touches r) h.toTouches h'.toTouches, h'.released.trans h.released, told_trans h.unclosed h'.unclosed⟩

theorem of_event (w : World) {e : Event} (he : e.closed? = none) : Attends r w { w with trace := w.trace ++ [e] } :=
  of_notes [e] rfl (by simpa using he) rfl rfl

theorem of_change (w : World) (f : Backend → Backend) : Attends r w (w.changeBackend f) :=
  of_notes [] (List.append_nil _).symm (by simp) rfl rfl

/-- A change of the runner that does not release it. -/
theorem of_changeRunner (w : World) {f : Runner → Runner}
    (h : (f (w.runners.get r)).released = (w.runners.get r).released) : Attends r w (w.changeRunner r f) where
  toTouches := .of_changeRunner w f
  released := by rw [changeRunner_get_self, h]
  unclosed := ⟨[], (List.append_nil _).symm, by simp⟩

instance : Works (Attends r) where
  logged w _ := of_notes [] (List.append_nil _).symm (by simp) rfl rfl
  idled w e he := of_event w (by cases e <;> first | rfl | cases he)
  noted w e _ he := of_event w (Event.closed?_of_not_isStock he)
  worked w f _ _ := of_change w f

instance : Asides (Attends r) where
  locked _ _ _ := of_notes [] (List.append_nil _).symm (by simp) rfl rfl
  asked _ _ _ := of_notes [] (List.append_nil _).symm (by simp) rfl rfl

instance : Exports (Attends r) where
  imaged w e he := of_event w (by cases e <;> first | rfl | cases he)
  asked w _ := of_change w _
  stored w _ := of_notes [] (List.append_nil _).symm (by simp) rfl rfl

end Attends

end World

/-! ## Statements and transactions of a runner -/

namespace Session

variable {r : Nat} {w : World}

theorem attends_changeRunner {f : Runner → Runner} (h : ∀ x, (f x).released = x.released) :
    Moves (Attends r) (changeRunner r f) :=
  .modify fun w => .of_changeRunner w (h _)

theorem attends_connect (r : Nat) : Moves (Attends r) (connect r) :=
  moves_connect_of r (moves_obtainConnection_of fun e => moves_connectEngine_of e fun w => .of_change w _)
    fun _ => attends_changeRunner fun _ => rfl

/-- The end of a transaction at the backend. -/
theorem attends_endingCall {e : Event} (he : e.closed? = none) (site : Site) (c : Nat) (f : Connection → Connection) :
    Moves (Attends r) (do emit e; fault site; changeConnection c f) :=
  moves_connectionCall (.modify fun w => .of_event w he) (moves_fault_of fun w _ => .of_change w _) c f

/-- Statements and transactions of runner `r` move the world along `R`. -/
structure Operates (R : World → World → Prop) (r : Nat) : Prop where
  query : ∀ sql parameters, Moves R (query r sql parameters)
  start : ∀ isolation, Moves R (startTransaction r isolation)
  commit : Moves R (commitTransaction r)
  rollback : Moves R (rollbackTransaction r)

theorem operates_attends (r : Nat) : Operates (Attends r) r where
  query sql parameters := moves_query_of r sql parameters (attends_connect r) fun _ => attends_changeRunner fun _ => rfl
  start isolation := moves_startTransaction_of r isolation
    (moves_openTransaction_of r isolation (attends_connect r) moves_commit fun _ => attends_changeRunner fun _ => rfl)
  commit := moves_commitTransaction_of r (fun c => attends_endingCall (e := .txCommit c) rfl ..)
    (attends_changeRunner fun _ => rfl) (attends_changeRunner fun _ => rfl)
  rollback := moves_rollbackTransaction_of r (fun c => attends_endingCall (e := .txRollback c) rfl ..)
    (attends_changeRunner fun _ => rfl) (attends_changeRunner fun _ => rfl)

theorem operates_manages (r : Nat) : Operates (Manages r) r :=
  ⟨manages_query r, manages_startTransaction r, manages_commitTransaction r, manages_rollbackTransaction r⟩

/-- Letting go of the connection, and giving the runner back, leave the other runners alone. -/
theorem touches_closeConnection (r : Nat) : Moves (Touches r) (closeConnection r) :=
  ⟨fun w => .of_detaches (detaches_closeConnection r w)⟩

theorem touches_release (r : Nat) : Moves (Touches r) (release r) := by
  refine ⟨fun w => ?_⟩
  rcases release_cases r w with h | ⟨-, -, h⟩ | h
  · rw [h]
    exact refl_of (Touches r) w
  · have hflush : Moves (Attends r) (flush r) := moves_flush_of r (attends_changeRunner fun _ => rfl)
    rw [h]
    exact (hflush.along w).toTouches
  · exact trans_of (Touches r) (.of_changeRunner w _) (.of_detaches h)

end Session

theorem RunnerRequest.touches (r : Nat) : (q : RunnerRequest) → Moves (Touches r) (q.run r)
  | .connect => ((attends_connect r).bind fun _ => .pure _).mono fun _ _ h => h.toTouches
  | .call (.query sql parameters) =>
    (((operates_attends r).query sql parameters).bind fun _ => .pure _).mono fun _ _ h => h.toTouches
  | .call (.start isolation) => ((operates_attends r).start isolation).mono fun _ _ h => h.toTouches
  | .call .commit => (operates_attends r).commit.mono fun _ _ h => h.toTouches
  | .call .rollback => (operates_attends r).rollback.mono fun _ _ h => h.toTouches
  | .call .close => touches_closeConnection r
  | .call .release => touches_release r

/-! ## Calls of a data source -/

/-- The calls that run a statement: a builder is executed, for its outcome, its rows or their count, or a raw
statement is run. Each is given something for a runner. -/
inductive StatementCall where
  | execute (b : Builder Nat) (given : Value)
  | rows (b : Builder Nat) (given : Value)
  | count (b : Builder Nat) (given : Value)
  | raw (sql parameters given : Value)

namespace StatementCall

/-- Makes the call. What it gives is not kept. -/
def run : StatementCall → Session Unit
  | .execute b given => do
    let _ ← Session.execute b given
    pure ()
  | .rows b given => do
    let _ ← executeRows b given
    pure ()
  | .count b given => do
    let _ ← Session.count b given
    pure ()
  | .raw sql parameters given => do
    let _ ← runRaw sql parameters given
    pure ()

def given : StatementCall → Value
  | .execute _ given | .rows _ given | .count _ given | .raw _ _ given => given

end StatementCall

namespace Session

variable {R : World → World → Prop} [IsPreorder World R] [Steadies R] {r : Nat} {given : Value}

theorem truth_of_handle {v : Value} {ref : Handle} (h : v.handle? = some ref) : v.truth = true := by
  cases v <;> first | rfl | cases h

namespace Operates

theorem runRaw (h : Operates R r) (hgiven : given.handle? = some (.runner r)) (sql parameters : Value) :
    Moves R (runRaw sql parameters given) := by
  have htruth : given.truth = true := truth_of_handle hgiven
  refine Moves.get.bind fun w => .guarded (moves_raise _) ((moves_ofResult _).bind fun (sql, values) => ?_)
  rw [htruth, hgiven]
  exact (h.query _ _).bind fun _ => .pure _

variable [Announces R]

theorem makeSteps (h : Operates R r) (b : Builder Nat) (payloads : List Value) (sql : String) (values : List Value) :
    Moves R (makesSteps b r (stepsOf b payloads r sql values)) :=
  moves_makeSteps_of ((moves_runner r).bind fun _ => .pure _) (h.start .null) h.commit h.rollback
    (moves_stepsOf_of b payloads r sql values (h.query _ _)) (fun f => moves_noteRollback f) _

/-- A builder that is executed on a runner that was given runs its statement on it, and nothing else. -/
theorem execute (h : Operates R r) (hgiven : given.handle? = some (.runner r)) (b : Builder Nat) :
    Moves R (execute b given) := by
  have htruth : given.truth = true := truth_of_handle hgiven
  have hobtain : obtainRunner given = pure given := if_pos htruth
  refine (moves_ofResult _).bind fun payloads => ?_
  refine (Moves.get.bind fun w => moves_ofResult _).bind fun (sql, values) => ?_
  dsimp only
  rw [hobtain, pure_bind, hgiven, htruth]
  exact (h.makeSteps b payloads sql values).execution_andFinally (.pure _)

theorem executeRows (h : Operates R r) (hgiven : given.handle? = some (.runner r)) (b : Builder Nat) :
    Moves R (executeRows b given) := by
  refine (h.execute hgiven b).bind fun outcome => ?_
  split
  · exact .pure _
  · exact .pure _

theorem count (h : Operates R r) (hgiven : given.handle? = some (.runner r)) (b : Builder Nat) :
    Moves R (count b given) := by
  refine (h.executeRows hgiven _).bind fun rows => ?_
  split
  · exact .pure _
  · exact .pure _
  · split
    · exact moves_ofResult _
    · exact .throw _

/-- A call on a runner that was given. -/
theorem statementCall (h : Operates R r) (c : StatementCall) (hgiven : c.given.handle? = some (.runner r)) :
    Moves R c.run := by
  cases c with
  | execute b given => exact (h.execute hgiven b).bind fun _ => .pure _
  | rows b given => exact (h.executeRows hgiven b).bind fun _ => .pure _
  | count b given => exact (h.count hgiven b).bind fun _ => .pure _
  | raw sql parameters given => exact (h.runRaw hgiven sql parameters).bind fun _ => .pure _

end Operates

end Session

end SqlWeave
