import SqlWeave.Proofs.Session.Course

/-!
# How a statement that fails is reported

A statement fails at the backend when it is executed, when its rows are fetched, or when it is committed at once. The
answer of a backend tells the first two together: here the way rows are fetched is a parameter that may fail by itself.
Such a failure is reported as one problem with the statement, its values and the failure behind it. Before that, what
the statement left open is rolled back, unless it belongs to an active transaction.

Main result: the problem that is raised, for each failure at the backend. Only the rollback can get in its way: where
it is made and fails, its failure is raised instead. No runner's transaction begins or ends in any of this.
-/

namespace SqlWeave

open Session

open World (Calm Answered SameStanding)

variable {r c : Nat} {f : Failure} {sql : Value} {values : List Value} {u v w w₁ : World}
  {fetch : Dialect → Reply → Result QueryOutcome}

namespace World

/-- What the next statement of runner `r` fails with at the backend, if it does: when it is executed, when its rows are
fetched, or when it is committed, which is tried at once where no transaction is active. -/
def statementFault? (w : World) (fetch : Dialect → Reply → Result QueryOutcome) (r : Nat) : Option Failure :=
  w.backend.reply.failure.or <|
    match fetch w.dialect w.backend.reply with
    | .error f => some f
    | .ok _ => if w.activeAt r then none else w.fault? .commit

/-- What the rollback of a failed statement of runner `r` fails with, if it is made and does. -/
def undoFault? (w : World) (r : Nat) : Option Failure := if w.activeAt r then none else w.fault? .rollback

theorem undoFault?_eq (hactive : v.activeAt r = w.activeAt r) (hfault : v.fault? .rollback = w.fault? .rollback) :
    v.undoFault? r = w.undoFault? r := by
  rw [undoFault?, undoFault?, hactive, hfault]

theorem Calm.statementFault? (h : Calm r w v) (fetch : Dialect → Reply → Result QueryOutcome) :
    v.statementFault? fetch r = w.statementFault? fetch r := by
  have hfault : v.fault? .commit = w.fault? .commit := h.fault? rfl
  rw [World.statementFault?, World.statementFault?, h.reply, h.dialect, h.activeAt, hfault]

theorem Calm.undoFault? (h : Calm r w v) : v.undoFault? r = w.undoFault? r := undoFault?_eq h.activeAt (h.fault? rfl)

end World

namespace Session

/-! ## Fetching rows -/

/-- Executes a statement, fetches its rows, and commits it when no transaction is active. -/
def execFetchCommit (fetch : Dialect → Reply → Result QueryOutcome) (r c : Nat) (sql : Value) (values : List Value) :
    Session QueryOutcome := do
  let reply ← exec c sql values
  let outcome ← (MonadExcept.ofExcept (fetch (← get).dialect reply) : Session QueryOutcome)
  if !(← runner r).active then commit c
  return outcome

/-- Runs a statement on a runner, whose rows are fetched in a way that may fail. -/
def queryFetching (fetch : Dialect → Reply → Result QueryOutcome) (r : Nat) (sql parameters : Value) :
    Session QueryOutcome := do
  traced (.ofStatement (← get) sql)
    (runSending (fun c values => execFetchCommit fetch r c sql values) r sql parameters)

theorem eq_of_ends {α : Type} {s t : Session α} (h : ∀ w, ends s w = ends t w) : s = t := funext h

/-- A commit does not change how the outcome of a reply is told. -/
theorem execAndCommit_eq (r c : Nat) (sql : Value) (values : List Value) : execAndCommit r c sql values =
    execFetchCommit (fun dialect reply => .ok (reply.outcome dialect)) r c sql values := by
  refine eq_of_ends fun w => ?_
  unfold execAndCommit execFetchCommit
  rw [ends_bind, ends_bind]
  rcases ends (exec c sql values) w with ⟨f | reply, s⟩
  · rfl
  dsimp only
  rw [ends_bind_ok (ends_runner r s), ends_bind_ok (ends_get s), ends_bind_ok (ends_ofExcept ..),
    ends_bind_ok (ends_runner r s)]
  cases (s.runners.get r).active with
  | true => rfl
  | false =>
    have hs : SameStanding s (ends (commit c) s).2 := (moves_commit c).along s
    simp only [Bool.not_false, if_true]
    rw [ends_bind, ends_bind]
    rcases hcommit : ends (commit c) s with ⟨f | a, t⟩
    · rfl
    · rw [hcommit] at hs
      dsimp only
      rw [ends_bind_ok (ends_get t), hs.dialect]

theorem query_eq (r : Nat) (sql parameters : Value) :
    query r sql parameters = queryFetching (fun dialect reply => .ok (reply.outcome dialect)) r sql parameters := by
  unfold query queryFetching
  simp only [runStatement_eq, execAndCommit_eq]

/-! ## At the backend -/

/-- Where the attempt to execute a statement, to fetch its rows and to commit it has failed with `f`. -/
structure FailedAt (r c : Nat) (f : Failure) (w u : World) : Prop where
  inTransaction : (u.backend.connections.get c).inTransaction = true
  activeAt : u.activeAt r = w.activeAt r
  undo : u.undoFault? r = w.undoFault? r

/-- The attempt fails with what waits at the backend, and leaves the connection in a transaction. -/
theorem ends_execFetchCommit (c : Nat) (sql : Value) (values : List Value)
    (hfault : w.statementFault? fetch r = some f) :
    ∃ u, FailedAt r c f w u ∧ ends (execFetchCommit fetch r c sql values) w = (.error f, u) := by
  obtain ⟨s, hs, hin, hexec⟩ := answered_exec c sql values w
  have hsite : (Event.exec c sql values).endSite? ≠ some .rollback := by simp [Event.endSite?]
  have hsent : FailedAt r c f w s := ⟨hin, hs.activeAt r, World.undoFault?_eq (hs.activeAt r) (hs.fault? hsite)⟩
  unfold World.statementFault? at hfault
  unfold execFetchCommit
  cases hreply : w.backend.reply.failure with
  | some g =>
    rw [hreply] at hfault
    cases hfault
    rw [settled, hreply] at hexec
    exact ⟨s, hsent, ends_bind_error hexec⟩
  | none =>
    rw [hreply, Option.none_or] at hfault
    rw [settled, hreply] at hexec
    rw [ends_bind_ok hexec, ends_bind_ok (ends_get s), hs.dialect]
    cases hfetch : fetch w.dialect w.backend.reply with
    | error g =>
      rw [hfetch] at hfault
      cases hfault
      exact ⟨s, hsent, ends_bind_error (ends_ofExcept ..)⟩
    | ok outcome =>
      rw [hfetch] at hfault
      dsimp only at hfault
      rw [ends_bind_ok (ends_ofExcept ..), ends_bind_ok (ends_runner r s)]
      cases ha : w.activeAt r with
      | true =>
        rw [ha] at hfault
        cases hfault
      | false =>
        rw [ha, if_neg Bool.false_ne_true] at hfault
        have hinactive : (s.runners.get r).active = false := (hs.activeAt r).trans ha
        obtain ⟨t, ht, hkept, hcommit⟩ := ends_commit c s
        have hwaits : s.fault? .commit = some f := (hs.fault? (by simp [Event.endSite?])).trans hfault
        rw [hwaits] at hcommit hkept
        have hturned : FailedAt r c f w t := by
          refine ⟨?_, (ht.activeAt r).trans hsent.activeAt, ?_⟩
          · rw [hkept (Option.some_ne_none f)]
            exact hin
          · exact (World.undoFault?_eq (ht.activeAt r) (ht.fault? (by simp [Event.endSite?]))).trans hsent.undo
        rw [hinactive]
        exact ⟨t, hturned, ends_bind_error hcommit⟩

/-- What a failed statement left open is rolled back, and only this can fail. -/
theorem result_cleanUp (r : Nat) (f : Failure) (fields : Record) (started : Double)
    (hin : (w.backend.connections.get c).inTransaction = true) :
    (ends (cleanUp r c fields started f) w).1 = passes (w.undoFault? r) := by
  obtain ⟨q, hq, he⟩ := ends_cleanUp r fields started f hin
  rw [he, ← hq.undoFault?, World.undoFault?]
  cases q.activeAt r with
  | true => rfl
  | false =>
    obtain ⟨x, -, hrollback⟩ := ends_rollback c q
    exact congrArg Prod.fst hrollback

/-! ## The report -/

/-- The problem of a statement that has failed, unless what it left open cannot be rolled back. -/
def reported (w : World) (r : Nat) (sql : String) (values : List Value) (f : Failure) : Failure :=
  (w.undoFault? r).getD (.problem (.queryFailed (.text sql) values) (some f))

theorem result_failed {fields : Record} {started : Double} (sql : String) (hfailed : FailedAt r c f w u) :
    (ends (do
      cleanUp r c fields started f
      let shown ← ofResult (ProblemKind.tellableQuery (.text sql))
      raise (.problem (.queryFailed shown values) (some f)) : Session QueryOutcome) u).1 =
        .error (reported w r sql values f) := by
  have hclean := result_cleanUp r f fields started hfailed.inTransaction
  rw [reported, ← hfailed.undo]
  cases hundo : u.undoFault? r with
  | some g =>
    rw [hundo] at hclean
    rw [ends_bind_error (ends_eq_of_result hclean)]
    rfl
  | none =>
    rw [hundo] at hclean
    have hshown (v : World) : ends (ofResult (ProblemKind.tellableQuery (.text sql))) v = (.ok (.text sql), v) := rfl
    obtain ⟨v, hv⟩ := ends_raise (α := QueryOutcome) (.problem (.queryFailed (.text sql) values) (some f))
      (ends (cleanUp r c fields started f) u).2
    rw [ends_bind_ok (ends_eq_of_result hclean), ends_bind_ok (hshown _), hv]
    rfl

theorem result_runSending (sql : String) {parameters : Value} (hconnect : ends (connect r) w = (.ok c, w₁))
    (hvalues : positional parameters = .ok values) (hfault : w.statementFault? fetch r = some f) :
    (ends (runSending (fun c values => execFetchCommit fetch r c (.text sql) values) r (.text sql) parameters) w).1 =
      .error (reported w r sql values f) := by
  have hunreleased : ¬ (w.runners.get r).released = true := by
    rw [released_of_connect hconnect]
    exact Bool.false_ne_true
  have hw₁ : Calm r w w₁ := by
    have htakes := takes_connect r w
    rw [hconnect] at htakes
    exact htakes.1
  -- Until the statement is sent, each step is calm and ends well.
  have hfields : ∃ fields, ends (statementFields (.text sql) values) w₁ = (.ok fields, w₁) := ⟨_, rfl⟩
  obtain ⟨fields, hfields⟩ := hfields
  obtain ⟨x, hx, hwx, -⟩ := calm_log r (if (w₁.settings.get "log_queries").truth then .info else .debug)
    "quarry.driver.query_runner" "Executing query" fields false w₁
  obtain ⟨started, z, hz, hxz, -⟩ := calm_now r x
  have hwz : Calm r w z := (hw₁.trans hwx).trans hxz
  obtain ⟨u, hfailed, hsent⟩ := ends_execFetchCommit c (.text sql) values ((hwz.statementFault? fetch).trans hfault)
  have hreported : reported z r sql values f = reported w r sql values f := by rw [reported, reported, hwz.undoFault?]
  unfold runSending
  rw [ends_bind_ok (ends_runner r w), if_neg hunreleased, ends_bind_ok hconnect, hvalues,
    ends_bind_ok (ends_ofResult_ok ..), ends_bind_ok hfields, ends_bind_ok (ends_get w₁), ends_bind_ok hx,
    ends_bind_ok hz, ends_bind_ok (ends_attempt ..), hsent, ← hreported]
  exact result_failed sql hfailed

/-- What a text says can be told as a span, so that nothing is logged about it. -/
theorem warning?_ofStatement (w : World) (sql : String) : (Tracing.ofStatement w (.text sql)).warning? = none := by
  have hshown : ∃ shown, Tracing.shownStatement (.text sql) = .ok shown := by
    unfold Tracing.shownStatement
    split
    · exact ⟨_, rfl⟩
    · exact ⟨_, rfl⟩
  obtain ⟨shown, hshown⟩ := hshown
  unfold Tracing.warning? Tracing.ofStatement
  dsimp only
  rw [hshown]
  rfl

theorem result_queryFetching (fetch : Dialect → Reply → Result QueryOutcome) (r : Nat) (sql : String)
    (parameters : Value) (w : World) : (ends (queryFetching fetch r (.text sql) parameters) w).1 = (ends
      (runSending (fun c values => execFetchCommit fetch r c (.text sql) values) r (.text sql) parameters) w).1 := by
  unfold queryFetching traced
  rw [ends_bind_ok (ends_get w), warning?_ofStatement]
  obtain ⟨v, -, he⟩ := ends_spanned r (.ofStatement w (.text sql))
    (runSending (fun c values => execFetchCommit fetch r c (.text sql) values) r (.text sql) parameters) w
  exact (congrArg Prod.fst he :)

/-- Running a statement changes the standing of no runner, whatever comes of it. -/
theorem moves_queryFetching (fetch : Dialect → Reply → Result QueryOutcome) (r : Nat) (sql parameters : Value) :
    Moves SameStanding (queryFetching fetch r sql parameters) := by
  have hsend (c : Nat) (values : List Value) : Moves SameStanding (execFetchCommit fetch r c sql values) := by
    refine (moves_exec ..).bind fun reply => Moves.get.bind fun w => .bind ?_ fun outcome =>
      (moves_runner r).bind fun _ => .guarded (moves_commit c) (.pure _)
    cases fetch w.dialect reply with
    | ok outcome => exact .pure outcome
    | error f => exact .throw f
  exact Moves.get.bind fun _ => moves_traced _
    (moves_runSending_of r sql parameters hsend (moves_connect r) fun _ => moves_changeRunner r fun _ => rfl)

/-- **A failure at the backend is reported as one problem.** When runner `r` has its connection and knows the values,
and executing the statement, fetching its rows, or committing it where no transaction is active fails with `f`, then
the call ends with the problem that tells the statement, the values in their order, and `f` behind them. It does so in
an active transaction, and outside of one unless the rollback of what was left open fails, too; then it ends with that
failure. In each case every runner's transaction is as active as it was. The statements that runners run are those
whose rows are fetched without a failure of its own. -/
theorem backend_failure_reported (fetch : Dialect → Reply → Result QueryOutcome) (sql : String) {parameters : Value}
    {values : List Value} {w w₁ : World} {r c : Nat} {f : Failure} (hconnect : ends (connect r) w = (.ok c, w₁))
    (hvalues : positional parameters = .ok values) (hfault : w.statementFault? fetch r = some f) :
    (ends (queryFetching fetch r (.text sql) parameters) w).1 = .error
      (match w.activeAt r, w.fault? .rollback with
        | false, some g => g
        | _, _ => .problem (.queryFailed (.text sql) values) (some f)) ∧
    (∀ i, (ends (queryFetching fetch r (.text sql) parameters) w).2.activeAt i = w.activeAt i) ∧
    query r (.text sql) parameters =
      queryFetching (fun dialect reply => .ok (reply.outcome dialect)) r (.text sql) parameters := by
  refine ⟨?_, fun i => ((moves_queryFetching fetch r (.text sql) parameters).along w).activeAt i, query_eq ..⟩
  rw [result_queryFetching, result_runSending sql hconnect hvalues hfault, reported, World.undoFault?]
  cases w.activeAt r with
  | true => rfl
  | false => cases w.fault? .rollback <;> rfl

end Session

/-- A server that turns the next statement down, and then the rollback of what it left open. -/
def World.refusingCleanUp : World :=
  { dialect := .postgres
    initialized := true
    engine := some 0
    backend :=
      { replies := [{ failure := some (.fault "RuntimeError" "no such table") }]
        faults := fun site => if site = .rollback then [some (.fault "RuntimeError" "connection lost")] else [] } }

/-- The statement has failed first, and the rollback is what is reported. -/
theorem Session.lost_cleanUp_hides_failure :
    World.refusingCleanUp.statementFault? (fun dialect reply => .ok (reply.outcome dialect)) 0 =
      some (.fault "RuntimeError" "no such table") ∧
    (ends (query 0 (.text "DELETE FROM users") (.list [.int 1])) .refusingCleanUp).1 =
      .error (.fault "RuntimeError" "connection lost") := by
  have hvalues : positional (.list [.int 1]) = .ok [.int 1] := rfl
  obtain ⟨hresult, -, hquery⟩ := backend_failure_reported (fun dialect reply => .ok (reply.outcome dialect))
    "DELETE FROM users" (w := .refusingCleanUp) (r := 0) rfl hvalues rfl
  refine ⟨rfl, ?_⟩
  rw [hquery, hresult]
  rfl

end SqlWeave
