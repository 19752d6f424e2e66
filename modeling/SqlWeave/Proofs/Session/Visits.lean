import SqlWeave.Proofs.Session.History
import SqlWeave.Proofs.Session.StatementTransaction

/-!
# Builders on a runner

A builder that is executed on a runner does no more than to make calls on it, with calm steps around them. So
what holds of every history of a runner holds of callers that execute builders, too.
-/

namespace SqlWeave

open Session Execution World

variable {α β : Type} {r : Nat} {u v w : World}

/-! ## Statements of builders -/

namespace Session

variable {R : World → World → Prop}

/-- A statement moves the world as the call does that keeps no outcome of it. -/
theorem moves_query_of_call {sql parameters : Value} (h : Moves R ((RunnerCall.query sql parameters).run r)) :
    Moves R (query r sql parameters) := by
  refine ⟨fun w => ?_⟩
  have hsame : (ends (query r sql parameters >>= fun _ => pure ()) w).2 = (ends (query r sql parameters) w).2 := by
    rw [ends_bind]
    rcases ends (query r sql parameters) w with ⟨f | a, v⟩ <;> rfl
  rw [← hsame]
  exact h.along w

variable [IsPreorder World R]

/-- A statement of a builder moves along `R` when the calls on its runner do. -/
theorem moves_builderStatement_of [Steadies R] [Announces R] (hcall : ∀ c : RunnerCall, Moves R (c.run r)) (b : Builder Nat)
    (payloads : List Value) (sql : String) (values : List Value) (wanted obtained : Bool) :
    Moves R (statement (runnerOps r) wanted obtained noteRollback (stepsOf b payloads r sql values)) :=
  moves_statement_of ((moves_runner r).bind fun _ => .pure _) (hcall (.start .null)) (hcall .commit) (hcall .rollback)
    (hcall .release) (moves_stepsOf_of b payloads r sql values (moves_query_of_call (hcall (.query _ _))))
    (fun f => moves_noteRollback f) wanted obtained

/-- Every call on a runner moves along `R` when ending its transaction at the backend does. -/
theorem moves_call_of [Serves R] [Asides R] (hcommit : ∀ c, Moves R (txCommit c)) (hrollback : ∀ c, Moves R (txRollback c))
    (r : Nat) : (c : RunnerCall) → Moves R (c.run r)
  | .query sql parameters => (moves_serveQuery r sql parameters).bind fun _ => .pure _
  | .start isolation => moves_startTransaction_of r isolation
      (moves_openTransaction_of r isolation (moves_serveConnect r) moves_commit fun _ => moves_serve ..)
  | .commit => moves_commitTransaction_of r hcommit (moves_serve ..) (moves_serve ..)
  | .rollback => moves_rollbackTransaction_of r hrollback (moves_serve ..) (moves_serve ..)
  | .close => moves_closeConnection r
  | .release => moves_release r

/-- Executing a builder moves along `R` when the calls on every runner do, and asking for one. -/
theorem moves_execute_of [Steadies R] [Announces R] (hcall : ∀ (r : Nat) (c : RunnerCall), Moves R (c.run r)) (given : Value)
    (hobtain : Moves R (obtainRunner given)) (b : Builder Nat) : Moves R (execute b given) := by
  refine (moves_ofResult _).bind fun payloads => ?_
  refine (Moves.get.bind fun w => moves_ofResult _).bind fun (sql, values) => hobtain.bind fun o => ?_
  split
  · exact moves_builderStatement_of (hcall _) b payloads sql values _ _
  · exact .throw _

end Session

/-! ## Along a history -/

/-- The second world is reached from the first one by calls on runner `r`. -/
def World.Reaches (r : Nat) (w v : World) : Prop := ∃ ds, History r w ds v

instance : IsPreorder World (Reaches r) where
  refl _ := ⟨[], .start⟩
  trans _ _ _ h h' := by
    obtain ⟨xs, hxs⟩ := h
    obtain ⟨ys, hys⟩ := h'
    exact ⟨xs ++ ys, hxs.append hys⟩

theorem World.Reaches.of_calm (h : Calm r w v) : Reaches r w v := ⟨[], .pause .start h⟩

instance : Asides (Reaches r) where
  locked w i n := .of_calm (Locks.locked w i n)
  asked w i h := .of_calm (Asides.asked w i h)

instance : Idles (Reaches r) where
  logged w logs := .of_calm (Remarks.logged w logs)
  idled w e he := .of_calm (Remarks.idled w e he)
  changed w f hf := .of_calm (Idles.changed w f hf)

namespace Session

theorem reaches_call (r : Nat) (c : RunnerCall) : Moves (Reaches r) (c.run r) := ⟨fun _ => ⟨_, .call .start c⟩⟩

/-- A statement of a builder is a row of calls on its runner. -/
theorem reaches_statement (b : Builder Nat) (payloads : List Value) (r : Nat) (sql : String) (values : List Value)
    (wanted obtained : Bool) : Moves (Reaches r)
      (statement (runnerOps r) wanted obtained noteRollback (stepsOf b payloads r sql values)) :=
  moves_builderStatement_of (reaches_call r) b payloads sql values wanted obtained

end Session

/-! ## Callers -/

/-- What a caller gives for a runner means runner `r`: it is this runner, or nothing, and the data source has the
runner for all. -/
def World.Means (w : World) (given : Value) (r : Nat) : Prop :=
  given.handle? = some (.runner r) ∨ (given.truth = false ∧ w.shared = some r)

/-- The worlds between the calls of a caller, who makes calls on runner `r` and executes builders on it. -/
inductive Visits (r : Nat) (w : World) : World → Prop
  | start : Visits r w w
  | call {u : World} (h : Visits r w u) (c : RunnerCall) : Visits r w (Deed.after ⟨u, c⟩ r)
  | execute {u : World} (h : Visits r w u) (b : Builder Nat) {given : Value} (hgiven : u.Means given r) :
    Visits r w (ends (execute b given) u).2

/-- Where what is given means a runner of an embedded database, that runner is obtained, or asking for it is in vain. -/
theorem obtainRunner_of_means {given : Value} (hd : w.dialect.isNetwork = false) (h : w.Means given r) :
    (∃ f v, Calm r w v ∧ ends (obtainRunner given) w = (.error f, v)) ∨
    (∃ o, o.handle? = some (.runner r) ∧ ends (obtainRunner given) w = (.ok o, w)) := by
  unfold obtainRunner
  rcases h with hgiven | ⟨hgiven, hshared⟩
  · have htruth : given.truth = true := by
      cases given <;> first | rfl | cases hgiven
    rw [htruth]
    exact .inr ⟨given, hgiven, rfl⟩
  · let P (p : Result Nat × World) : Prop := p = (.ok r, w) ∨ ∃ f v, Calm r w v ∧ p = (.error f, v)
    have hcreate : P (ends createRunner w) := by
      have hfail {f : Failure} (v : World) (h : ends (raise f : Session PUnit) w = (.error f, v)) : P (.error f, v) :=
        .inr ⟨f, v, Moves.of_ends (moves_raise f) h, rfl⟩
      unfold createRunner driverRunner sharedRunner
      rw [ends_bind_ok (ends_get w)]
      refine unless_elim (P := P) (fun _ => hfail) fun _ => ?_
      rw [ends_bind_ok (ends_get w), hd, if_neg Bool.false_ne_true]
      refine unless_elim (P := P) (fun _ => hfail) fun _ => ?_
      rw [ends_bind_ok (ends_get w), hshared]
      exact .inl rfl
    rw [hgiven, if_neg Bool.false_ne_true]
    rcases hcreate with he | ⟨f, v, hv, he⟩
    · exact .inr ⟨w.object (.runner r), rfl, ends_bind_ok he⟩
    · exact .inl ⟨f, v, hv, ends_bind_error he⟩

/-- A builder that is executed on a runner of an embedded database makes calls on it. -/
theorem reaches_execute (b : Builder Nat) {given : Value} (hd : w.dialect.isNetwork = false) (h : w.Means given r) :
    Reaches r w (ends (execute b given) w).2 := by
  by_cases hruns : ∃ i w₁ steps, w.ComesToRun b given i w₁ steps
  · obtain ⟨i, w₁, steps, hcomes⟩ := hruns
    rw [ends_execute hcomes]
    obtain ⟨payloads, sql, values, o, -, -, hobtained, hi, rfl⟩ := hcomes
    -- What is obtained is the runner that is meant, and nothing has changed.
    rcases obtainRunner_of_means hd h with ⟨f, v, -, he⟩ | ⟨o, hr, he⟩
    all_goals
      rw [he] at hobtained
      cases hobtained
    obtain rfl : r = i := by
      rw [hr] at hi
      cases hi
      rfl
    exact (reaches_statement ..).along w
  · have hobtain (f : Failure) (v : World) (hv : ends (obtainRunner given) w = (.error f, v)) : Reaches r w v := by
      rcases obtainRunner_of_means hd h with ⟨g, u, hu, he⟩ | ⟨o, -, he⟩
      all_goals
        rw [he] at hv
        cases hv
      exact .of_calm hu
    obtain ⟨f, v, hv, he⟩ := execute_of_not_comesToRun (R := Reaches r) (b := b) hobtain
      fun i w₁ steps hcomes => hruns ⟨i, w₁, steps, hcomes⟩
    rw [he]
    exact hv

end SqlWeave
