import SqlWeave.Proofs.Session.Calm

/-!
# The course of a call on a runner

For each call on a runner: all ways that it can take, told as the row of its calm steps and of the calls
that the backend answers. Conditions on the way are told on the world in which the call begins, where they
can be read before it is made: no step on the way changes them.
-/

namespace SqlWeave

open Session World

variable {α : Type} {r c : Nat} {u v w : World}

/-! ## The course of a statement -/

/-- Between the worlds runner `r` sends a statement on connection `c`. -/
def World.Sends (r : Nat) (sql : Value) (c : Nat) (w v : World) : Prop :=
  ∃ u values, Calm r w u ∧ (u.runners.get r).connection = some c ∧ Answered (.exec c sql values) u v

/-- Between the worlds runner `r` cleans up after a statement that failed: what the statement left open is
rolled back, unless it belongs to an active transaction. -/
def World.Undoes (r c : Nat) (w v : World) : Prop :=
  w.activeAt r = true ∧ Calm r w v ∨
    w.activeAt r = false ∧ ∃ p q, Calm r w p ∧ Answered (.rollback c) p q ∧ Calm r q v

/-- How a statement ends that was good: the warning that it was slow cannot be told, or what follows a
statement decides. -/
inductive World.Finishes (r : Nat) (sql : Value) (w : World) : Result QueryOutcome → World → Prop
  | slow {f : Failure} {duration : Double} {v : World} (hv : Calm r w v)
      (hlongest : (w.settings.get "max_query_execution_time").isNull = false)
      (hslow : exceeds duration (w.settings.get "max_query_execution_time") = .error f) :
      Finishes r sql w (.error f) v
  | told {u p v : World} {x : Result Unit} (outcome : QueryOutcome) (hu : Calm r w u)
      (hx : ends (afterQuery r sql) u = (x, p)) (hv : Calm r p v) :
      Finishes r sql w (x.map fun _ => outcome) v

/-- The ways that a statement of runner `r` can take. -/
inductive World.Queries (r : Nat) (sql : Value) (w : World) : Result QueryOutcome → World → Prop
  | unsent {f : Failure} {v : World} (hv : Calm r w v) : Queries r sql w (.error f) v
  | refused {f : Failure} {c : Nat} {s v : World} (hs : Sends r sql c w s)
      (hreply : w.backend.reply.failure ≠ none) (hv : Undoes r c s v) : Queries r sql w (.error f) v
  | kept {x : Result QueryOutcome} {c : Nat} {s v : World} (hactive : w.activeAt r = true)
      (hs : Sends r sql c w s) (hreply : w.backend.reply.failure = none) (hv : Finishes r sql s x v) :
      Queries r sql w x v
  | committed {x : Result QueryOutcome} {c : Nat} {s t v : World} (hactive : w.activeAt r = false)
      (hs : Sends r sql c w s) (hreply : w.backend.reply.failure = none) (hfault : w.fault? .commit = none)
      (ht : Answered (.commit c) s t) (hv : Finishes r sql t x v) : Queries r sql w x v
  | turnedDown {f : Failure} {c : Nat} {s t v : World} (hactive : w.activeAt r = false)
      (hs : Sends r sql c w s) (hreply : w.backend.reply.failure = none) (hfault : w.fault? .commit ≠ none)
      (ht : Answered (.commit c) s t) (hv : Undoes r c t v) : Queries r sql w (.error f) v

/-! ## The course of a transaction -/

/-- Between the worlds runner `r` prepares to begin: it takes a connection, and commits what is left open on
it. -/
def World.Prepares (r : Nat) (w v : World) : Prop :=
  Calm r w v ∨ w.activeAt r = false ∧ ∃ c p q, Calm r w p ∧ (p.runners.get r).connection = some c ∧
    Answered (.commit c) p q ∧ Calm r q v

/-- The ways that a start can take: it is refused, or the transaction is begun, and the hook after that
decides. -/
inductive World.Starts (r : Nat) (w : World) : Result Unit → World → Prop
  | refused {f : Failure} {v : World} (hv : Prepares r w v) : Starts r w (.error f) v
  | begun {c : Nat} {u v : World} (hactive : w.activeAt r = false) (hu : Prepares r w u)
      (hc : (u.runners.get r).connection = some c) (hv : Calm r (u.changeRunner r (.begun c)) v) :
      Starts r w (passes (w.refusal? .afterStart)) v

/-- The runner of a transaction on connection `c` is told that it is over, once the backend has answered event
`e`. -/
def World.EndsBy (r c : Nat) (e : Event) (w v : World) : Prop :=
  (w.runners.get r).transaction = some c ∧ ∃ p q, Calm r w p ∧ Answered e p q ∧
    Calm r (q.changeRunner r .ended) v

/-- The ways that a commit can take: it is stopped before the backend is told, or the backend turns it down,
or the transaction is over, and the hook after that, the automatic save and the lock decide. -/
inductive World.Commits (r : Nat) (w : World) : Result Unit → World → Prop
  | stopped {f : Failure} {v : World} (hl : ¬ w.letsCommit r) (hv : Calm r w v) : Commits r w (.error f) v
  | turnedDown {f : Failure} {c : Nat} {u p v : World} (hactive : w.activeAt r = true)
      (hc : (w.runners.get r).transaction = some c) (hfault : w.fault? .txCommit ≠ none) (hu : Calm r w u)
      (hp : Answered (.txCommit c) u p) (hv : Calm r p v) : Commits r w (.error f) v
  | hooked {f : Failure} {c : Nat} {v : World} (hl : w.letsCommit r) (hv : EndsBy r c (.txCommit c) w v)
      (hhook : w.refusal? .afterCommit = some f) : Commits r w (.error f) v
  | ended {c : Nat} {u : World} (hl : w.letsCommit r) (hu : EndsBy r c (.txCommit c) w u)
      (hhook : w.refusal? .afterCommit = none) {x : Result Unit} {p v : World}
      (hp : ends (if w.dialect = .sqljs then flush r else pure ()) u = (x, p)) (hv : Calm r p v) :
      Commits r w (outlived (w.lockFault? r) x) v

/-- The ways that a rollback can take, but for the mark for the automatic save: a hook stops it, or the
transaction is over, whatever the backend says. -/
inductive World.Rollbacks (r : Nat) (w : World) : World → Prop
  | stopped {v : World} (hl : ¬ w.letsRollback r) (hv : Calm r w v) : Rollbacks r w v
  | ended {c : Nat} {v : World} (hl : w.letsRollback r) (hv : EndsBy r c (.txRollback c) w v) : Rollbacks r w v

/-- The runner without its connection and its transaction. -/
def Runner.detached (x : Runner) : Runner := { x with connection := none, transaction := none, active := false }

/-- Between the worlds runner `r` lets go of its connection, which is closed. -/
def World.Detaches (r : Nat) (w v : World) : Prop :=
  match (w.runners.get r).connection with
  | some c => Answered (.close c) (w.changeRunner r .detached) v
  | none => v = w.changeRunner r .detached

namespace World

theorem Calm.reply (h : Calm r w v) : v.backend.reply = w.backend.reply := by
  rw [Backend.reply, Backend.reply, h.answers.replies]

theorem Sends.of_calm {sql : Value} (h : Calm r w u) (hs : Sends r sql c u v) : Sends r sql c w v := by
  obtain ⟨x, values, hx, hc, hs⟩ := hs
  exact ⟨x, values, h.trans hx, hc, hs⟩

theorem Sends.activeAt {sql : Value} (hs : Sends r sql c w v) : v.activeAt r = w.activeAt r := by
  obtain ⟨u, values, hu, -, hs⟩ := hs
  exact (hs.activeAt r).trans hu.activeAt

theorem Undoes.trans_calm (h : Undoes r c w u) (hv : Calm r u v) : Undoes r c w v := by
  rcases h with ⟨ha, hu⟩ | ⟨ha, p, q, hp, hq, hu⟩
  · exact .inl ⟨ha, hu.trans hv⟩
  · exact .inr ⟨ha, p, q, hp, hq, hu.trans hv⟩

namespace EndsBy

variable {e : Event}

theorem trans_calm (h : EndsBy r c e w u) (hv : Calm r u v) : EndsBy r c e w v := by
  obtain ⟨hc, p, q, hp, hq, hu⟩ := h
  exact ⟨hc, p, q, hp, hq, hu.trans hv⟩

theorem dialect (h : EndsBy r c e w v) : v.dialect = w.dialect := by
  obtain ⟨-, p, q, hp, hq, hv⟩ := h
  exact hv.dialect.trans (hq.dialect.trans hp.dialect)

theorem of_calm (h : Calm r w u) (he : EndsBy r c e u v) : EndsBy r c e w v := by
  obtain ⟨hc, p, q, hp, hq, hv⟩ := he
  exact ⟨h.transaction ▸ hc, p, q, h.trans hp, hq, hv⟩

end EndsBy

theorem Prepares.trans_calm (h : Prepares r w u) (hv : Calm r u v) : Prepares r w v := by
  rcases h with hu | ⟨ha, c, p, q, hp, hc, hq, hu⟩
  · exact .inl (hu.trans hv)
  · exact .inr ⟨ha, c, p, q, hp, hc, hq, hu.trans hv⟩

theorem Prepares.of_calm (h : Calm r w u) (hp : Prepares r u v) : Prepares r w v := by
  rcases hp with hv | ⟨ha, c, p, q, hp, hc, hq, hv⟩
  · exact .inl (h.trans hv)
  · exact .inr ⟨h.activeAt ▸ ha, c, p, q, h.trans hp, hc, hq, hv⟩

theorem Rollbacks.trans_calm (h : Rollbacks r w u) (hv : Calm r u v) : Rollbacks r w v := by
  cases h with
  | stopped hl hu => exact .stopped hl (hu.trans hv)
  | ended hl hu => exact .ended hl (hu.trans_calm hv)

theorem Calm.of_relocked (h : Relocked w v) : Calm r w v :=
  .of_notes [] (by simp) (by rw [h]; exact .refl _) (by rw [List.append_nil, h])

theorem Rollbacks.of_relocked (hr : Rollbacks r u v) (h : Relocked w u) : Rollbacks r w v := by
  cases hr with
  | stopped hl hv => exact .stopped ((h.letsRollback_iff r).not.mp hl) ((Calm.of_relocked h).trans hv)
  | ended hl hv => exact .ended ((h.letsRollback_iff r).mp hl) (.of_calm (.of_relocked h) hv)

theorem Finishes.trans_calm {sql : Value} {x : Result QueryOutcome} (h : Finishes r sql w x u) (hv : Calm r u v) :
    Finishes r sql w x v := by
  cases h with
  | slow hu hlongest hslow => exact .slow (hu.trans hv) hlongest hslow
  | told outcome hu hx hp => exact .told outcome hu hx (hp.trans hv)

theorem Queries.of_calm {sql : Value} {x : Result QueryOutcome} (h : Calm r w u) (hq : Queries r sql u x v) :
    Queries r sql w x v := by
  have hfault : u.fault? .commit = w.fault? .commit := h.fault? rfl
  cases hq with
  | unsent hv => exact .unsent (h.trans hv)
  | refused hs hreply hv => exact .refused (hs.of_calm h) (h.reply ▸ hreply) hv
  | kept hactive hs hreply hv => exact .kept (h.activeAt ▸ hactive) (hs.of_calm h) (h.reply ▸ hreply) hv
  | committed hactive hs hreply hf ht hv =>
    exact .committed (h.activeAt ▸ hactive) (hs.of_calm h) (h.reply ▸ hreply) (hfault ▸ hf) ht hv
  | turnedDown hactive hs hreply hf ht hv =>
    exact .turnedDown (h.activeAt ▸ hactive) (hs.of_calm h) (h.reply ▸ hreply) (hfault ▸ hf) ht hv

theorem Queries.trans_calm {sql : Value} {x : Result QueryOutcome} (hq : Queries r sql w x u) (h : Calm r u v) :
    Queries r sql w x v := by
  cases hq with
  | unsent hv => exact .unsent (hv.trans h)
  | refused hs hreply hv => exact .refused hs hreply (hv.trans_calm h)
  | kept hactive hs hreply hv => exact .kept hactive hs hreply (hv.trans_calm h)
  | committed hactive hs hreply hf ht hv => exact .committed hactive hs hreply hf ht (hv.trans_calm h)
  | turnedDown hactive hs hreply hf ht hv => exact .turnedDown hactive hs hreply hf ht (hv.trans_calm h)

end World

namespace Session

/-- What follows a call inside a span is calm. -/
theorem ends_spanned (r : Nat) (t : Tracing) (s : Session α) (w : World) :
    ∃ v, Calm r (ends s w).2 v ∧ ends (do
      let r ← attempt s
      if (← get).recordsSpans then emit (.span (t.span "" r))
      MonadExcept.ofExcept r : Session α) w = ((ends s w).1, v) := by
  rw [ends_bind_ok (ends_attempt s w), ends_bind_ok (ends_get _)]
  split
  · refine ⟨_, ?_, ends_ofExcept ..⟩
    exact (moves_emitIdle (R := Calm r) (.span (t.span "" (ends s w).1)) rfl).along _
  · exact ⟨_, refl_of (Calm r) _, ends_ofExcept ..⟩

/-- A call inside a span: what comes before it and after it is calm. -/
theorem ends_traced (r : Nat) (t : Tracing) (s : Session α) (w : World) :
    ∃ u v, Calm r w u ∧ Calm r (ends s u).2 v ∧ ends (traced t s) w = ((ends s u).1, v) := by
  unfold traced
  split
  · obtain ⟨v, hv, he⟩ := ends_spanned r t s _
    refine ⟨_, v, ?_, hv, (ends_bind_ok (ends_log ..)).trans he⟩
    exact (moves_log (R := Calm r) .warning Tracing.logger _ [] false).along w
  · obtain ⟨v, hv, he⟩ := ends_spanned r t s w
    exact ⟨w, v, refl_of (Calm r) w, hv, he⟩

/-- Reading the clock never fails, and is calm. -/
theorem calm_now (r : Nat) (w : World) : ∃ d v, ends now w = (.ok d, v) ∧ Calm r w v ∧
    v.backend.connections = w.backend.connections :=
  ⟨_, _, rfl, (moves_now (R := Calm r)).along w, rfl⟩

theorem calm_log (r : Nat) (level : LogLevel) (logger message : String) (extras : Record) (hasFailure : Bool)
    (w : World) : ∃ v, ends (log level logger message extras hasFailure) w = (.ok ⟨⟩, v) ∧ Calm r w v ∧
      v.backend.connections = w.backend.connections :=
  ⟨_, rfl, (moves_log (R := Calm r) ..).along w, rfl⟩

/-- Cleaning up where the statement has left its connection in a transaction: after calm steps, a rollback alone
decides how it ends. -/
theorem ends_cleanUp (r : Nat) (fields : Record) (started : Double) (f : Failure)
    (hin : (w.backend.connections.get c).inTransaction = true) :
    ∃ q, Calm r w q ∧
      ends (cleanUp r c fields started f) w = if q.activeAt r = true then (.ok ⟨⟩, q) else ends (rollback c) q := by
  obtain ⟨d, p, hp, hwp, hpin⟩ := calm_now r w
  obtain ⟨q, hq, hpq, hqin⟩ := calm_log r .error "quarry.driver.query_runner" "Query failed"
    (fields ++ [("duration.seconds", .text (Decimal.fixed 6 (d - started))), ("error", .text f.text)]) true p
  have hasks : ends (inTransaction c) q = (.ok true, q) := by
    rw [← hqin.trans hpin] at hin
    exact Prod.ext (congrArg Except.ok hin) rfl
  refine ⟨q, hwp.trans hpq, ?_⟩
  unfold cleanUp
  rw [ends_bind_ok hp, ends_bind_ok hq, ends_bind_ok (ends_runner r q), ends_bind_ok hasks, Bool.and_true]
  show ends (if (!q.activeAt r) = true then rollback c else pure ()) q = _
  cases q.activeAt r with
  | true => rfl
  | false => rfl

theorem undoes_cleanUp {fields : Record} {started : Double} {f : Failure}
    (hin : (w.backend.connections.get c).inTransaction = true) :
    Undoes r c w (ends (cleanUp r c fields started f) w).2 := by
  obtain ⟨q, hq, he⟩ := ends_cleanUp r fields started f hin
  rw [he, hq.activeAt]
  cases ha : w.activeAt r with
  | true => exact .inl ⟨ha, hq⟩
  | false =>
    obtain ⟨v, hv, hrollback⟩ := ends_rollback c q
    refine .inr ⟨ha, q, v, hq, hv, ?_⟩
    rw [if_neg Bool.false_ne_true, hrollback]
    exact refl_of (Calm r) v

/-- Only a limit that is no number makes the warning fail. -/
theorem exceeds_of_warnIfSlow {fields : Record} {started : Double} {f : Failure}
    (h : ends (warnIfSlow fields started) w = (.error f, v)) :
    (w.settings.get "max_query_execution_time").isNull = false ∧
      ∃ duration, exceeds duration (w.settings.get "max_query_execution_time") = .error f := by
  unfold warnIfSlow at h
  obtain ⟨d, p, hp, hwp, -⟩ := calm_now 0 w
  rw [ends_bind_ok hp, ends_bind_ok (ends_get p), hwp.settings] at h
  dsimp only at h
  cases hlongest : (w.settings.get "max_query_execution_time").isNull with
  | true =>
    rw [hlongest] at h
    cases h
  | false =>
    rw [hlongest, if_neg Bool.false_ne_true] at h
    refine ⟨rfl, d - started, ?_⟩
    rcases ends_ofResult (exceeds (d - started) (w.settings.get "max_query_execution_time")) p with
      ⟨isSlow, -, he⟩ | ⟨g, q, -, hg, he⟩
    · rw [ends_bind_ok he] at h
      cases isSlow <;> cases h
    · rw [ends_bind_error he] at h
      cases h
      exact hg

/-- What follows a good statement. -/
theorem finishes_statement (r : Nat) (sql : Value) (fields : Record) (started : Double) (outcome : QueryOutcome)
    (w : World) : ∃ x v, Finishes r sql w x v ∧ ends (do
      warnIfSlow fields started
      afterQuery r sql
      return outcome : Session QueryOutcome) w = (x, v) := by
  rcases hslow : ends (warnIfSlow fields started) w with ⟨f | a, u⟩
  · obtain ⟨hlongest, d, hd⟩ := exceeds_of_warnIfSlow hslow
    exact ⟨_, u, .slow (Moves.of_ends (moves_warnIfSlow ..) hslow) hlongest hd, ends_bind_error hslow⟩
  · have hu : Calm r w u := Moves.of_ends (moves_warnIfSlow ..) hslow
    rw [ends_bind_ok hslow]
    rcases hx : ends (afterQuery r sql) u with ⟨f | b, v⟩
    · exact ⟨_, v, .told outcome hu hx (refl_of (Calm r) v), ends_bind_error hx⟩
    · exact ⟨_, v, .told outcome hu hx (refl_of (Calm r) v), ends_bind_ok hx⟩

/-- How executing a statement and committing it ends: the reply fails, or an active transaction keeps what the
statement did, or the commit passes, or it is turned down. Where it fails, the connection stays in a
transaction. -/
theorem execAndCommit_cases (r c : Nat) (sql : Value) (values : List Value) (w : World) :
    ∃ s, Answered (.exec c sql values) w s ∧
      ((∃ f, w.backend.reply.failure = some f ∧ (s.backend.connections.get c).inTransaction = true ∧
        ends (execAndCommit r c sql values) w = (.error f, s)) ∨
      w.backend.reply.failure = none ∧
        ((w.activeAt r = true ∧ ∃ outcome, ends (execAndCommit r c sql values) w = (.ok outcome, s)) ∨
        w.activeAt r = false ∧ ∃ t, Answered (.commit c) s t ∧
          ((w.fault? .commit = none ∧ ∃ outcome, ends (execAndCommit r c sql values) w = (.ok outcome, t)) ∨
          ∃ f, w.fault? .commit = some f ∧ (t.backend.connections.get c).inTransaction = true ∧
            ends (execAndCommit r c sql values) w = (.error f, t)))) := by
  obtain ⟨s, hs, hin, hexec⟩ := answered_exec c sql values w
  refine ⟨s, hs, ?_⟩
  unfold execAndCommit
  cases hreply : w.backend.reply.failure with
  | some f =>
    rw [settled, hreply] at hexec
    exact .inl ⟨f, rfl, hin, ends_bind_error hexec⟩
  | none =>
    rw [settled, hreply] at hexec
    rw [ends_bind_ok hexec, ends_bind_ok (ends_runner r s), World.activeAt, ← hs.runners]
    refine .inr ⟨rfl, ?_⟩
    cases (s.runners.get r).active with
    | true => exact .inl ⟨rfl, _, rfl⟩
    | false =>
      obtain ⟨t, ht, hkept, hcommit⟩ := ends_commit c s
      have hsite : (Event.exec c sql values).endSite? ≠ some .commit := by simp [Event.endSite?]
      have hfault : s.fault? .commit = w.fault? .commit := hs.fault? hsite
      rw [hfault] at hkept hcommit
      refine .inr ⟨rfl, t, ht, ?_⟩
      simp only [Bool.not_false, if_true]
      cases hf : w.fault? .commit with
      | none =>
        rw [hf] at hcommit
        exact .inl ⟨rfl, _, ends_bind_ok hcommit⟩
      | some f =>
        rw [hf] at hcommit hkept
        rw [hkept (Option.some_ne_none f)]
        exact .inr ⟨f, rfl, hin, ends_bind_error hcommit⟩

/-- What a statement does once it has its connection, and its values are known. -/
theorem queries_execAndCommit {sql : Value} {values : List Value} {fields : Record} {started : Double}
    (hc : (w.runners.get r).connection = some c) {rest : Failure → Session QueryOutcome}
    (hrest : ∀ f, Moves (Calm r) (rest f)) (hfails : ∀ f u, ∃ g v, ends (rest f) u = (.error g, v)) :
    ∃ x v, Queries r sql w x v ∧ ends (do
      match ← attempt (execAndCommit r c sql values) with
      | .error f =>
        cleanUp r c fields started f
        rest f
      | .ok outcome =>
        warnIfSlow fields started
        afterQuery r sql
        return outcome : Session QueryOutcome) w = (x, v) := by
  -- Where the statement or its commit has failed, what it left open is rolled back.
  have undone (f : Failure) {t : World} (hin : (t.backend.connections.get c).inTransaction = true) :
      ∃ g v, Undoes r c t v ∧ ends (do cleanUp r c fields started f; rest f) t = (.error g, v) := by
    have hundoes : Undoes r c t (ends (cleanUp r c fields started f) t).2 := undoes_cleanUp hin
    rcases hu : ends (cleanUp r c fields started f) t with ⟨g | a, u⟩
    all_goals rw [hu] at hundoes
    · exact ⟨g, u, hundoes, ends_bind_error hu⟩
    · obtain ⟨g, v, hv⟩ := hfails f u
      exact ⟨g, v, hundoes.trans_calm (Moves.of_ends (hrest f) hv), (ends_bind_ok hu).trans hv⟩
  obtain ⟨s, hs, hcases⟩ := execAndCommit_cases r c sql values w
  have hsends : Sends r sql c w s := ⟨w, values, refl_of (Calm r) w, hc, hs⟩
  rw [ends_bind_ok (ends_attempt ..)]
  rcases hcases with ⟨f, hreply, hin, he⟩ |
    ⟨hreply, ⟨ha, outcome, he⟩ | ⟨ha, t, ht, ⟨hf, outcome, he⟩ | ⟨f, hf, hin, he⟩⟩⟩
  all_goals rw [he]
  · obtain ⟨g, v, hv, hg⟩ := undone f hin
    exact ⟨_, v, .refused hsends (by rw [hreply]; exact Option.some_ne_none f) hv, hg⟩
  · obtain ⟨x, v, hv, hx⟩ := finishes_statement r sql fields started outcome s
    exact ⟨x, v, .kept ha hsends hreply hv, hx⟩
  · obtain ⟨x, v, hv, hx⟩ := finishes_statement r sql fields started outcome t
    exact ⟨x, v, .committed ha hsends hreply hf ht hv, hx⟩
  · obtain ⟨g, v, hv, hg⟩ := undone f hin
    exact ⟨_, v, .turnedDown ha hsends hreply (by rw [hf]; exact Option.some_ne_none f) ht hv, hg⟩

/-- Each statement takes one of the ways, without the span around it. -/
theorem queries_runStatement (r : Nat) (sql parameters : Value) (w : World) :
    Queries r sql w (ends (runStatement r sql parameters) w).1 (ends (runStatement r sql parameters) w).2 := by
  let P (p : Result QueryOutcome × World) : Prop := Queries r sql w p.1 p.2
  -- Until the statement is sent, each step is calm, and a failure leaves it unsent.
  have step {β : Type} {s : Session β} {k : β → Session QueryOutcome} {u : World} (hs : Moves (Calm r) s)
      (hu : Calm r w u) (hk : ∀ b v, Calm r u v → Calm r w v → P (ends (k b) v)) : P (ends (s >>= k) u) := by
    refine bind_elim (P := P) (fun f v hv => ?_) fun b v hv => ?_
    · exact .unsent (hu.trans (Moves.of_ends hs hv))
    · exact hk b v (Moves.of_ends hs hv) (hu.trans (Moves.of_ends hs hv))
  unfold runStatement
  rw [ends_bind_ok (ends_runner r w)]
  refine unless_elim (P := P) (fun _ v hv => .unsent (Moves.of_ends (moves_raise _) hv)) fun _ => ?_
  have htakes := takes_connect r w
  refine bind_elim (P := P) (fun f u hu => ?_) fun c u hu => ?_
  all_goals rw [hu] at htakes
  · exact .unsent htakes
  refine step (moves_ofResult _) htakes.1 fun values p hp hwp => ?_
  refine step (moves_statementFields ..) hwp fun fields q hq hwq => ?_
  refine step Moves.get hwq fun _ x hx hwx => ?_
  refine step (moves_log ..) hwx fun _ y hy hwy => ?_
  refine step moves_now hwy fun started z hz hwz => ?_
  have hc : (z.runners.get r).connection = some c :=
    ((((hp.trans hq).trans hx).trans hy).trans hz).connection htakes.2
  have hrest (f : Failure) : Moves (Calm r) (do
      let shown ← ofResult (ProblemKind.tellableQuery sql)
      raise (.problem (.queryFailed shown values) (some f)) : Session QueryOutcome) :=
    (moves_ofResult _).bind fun _ => moves_raise _
  have hfails (f : Failure) (u : World) : ∃ g v, ends (do
      let shown ← ofResult (ProblemKind.tellableQuery sql)
      raise (.problem (.queryFailed shown values) (some f)) : Session QueryOutcome) u = (.error g, v) := by
    rcases ends_ofResult (ProblemKind.tellableQuery sql) u with ⟨shown, -, he⟩ | ⟨g, v, -, -, he⟩
    · obtain ⟨v, hv⟩ := ends_raise (α := QueryOutcome) (.problem (.queryFailed shown values) (some f)) u
      exact ⟨_, v, (ends_bind_ok he).trans hv⟩
    · exact ⟨g, v, ends_bind_error he⟩
  obtain ⟨x, v, hv, he⟩ := queries_execAndCommit hc hrest hfails
  have hquery : P (x, v) := hv.of_calm (hwy.trans hz)
  rwa [← he] at hquery

/-- Each statement takes one of the ways. -/
theorem queries_query (r : Nat) (sql parameters : Value) (w : World) :
    Queries r sql w (ends (query r sql parameters) w).1 (ends (query r sql parameters) w).2 := by
  unfold query
  rw [ends_bind_ok (ends_get w)]
  obtain ⟨u, v, hu, hv, he⟩ := ends_traced r (.ofStatement w sql) (runStatement r sql parameters) w
  rw [he]
  exact ((queries_runStatement r sql parameters u).trans_calm hv).of_calm hu

/-! ## Telling subscribers -/

/-- Telling of an event about transactions is calm, and fails exactly when a hook does. -/
theorem broadcast_cases (h : Hook) (r : Nat) (w : World) :
    (∃ f v, w.refusal? h = some f ∧ Calm r w v ∧ ends (broadcast h) w = (.error f, v)) ∨
    (∃ v, w.refusal? h = none ∧ Calm r w v ∧ ends (broadcast h) w = (.ok (), v)) := by
  have hcalm : Calm r w (ends (broadcast h) w).2 := (moves_broadcast ..).along w
  have hends := ends_eq_of_result (result_broadcast h w)
  cases hr : w.refusal? h with
  | some f =>
    rw [hr] at hends
    exact .inl ⟨f, _, rfl, hcalm, hends⟩
  | none =>
    rw [hr] at hends
    exact .inr ⟨_, rfl, hcalm, hends⟩

/-! ## Starting -/

/-- Where opening a transaction ends: with a transaction that is begun, or with preparations for it. -/
def Begins (r : Nat) (w : World) : Result Unit × World → Prop
  | (.ok _, v) => w.activeAt r = false ∧
    ∃ c u, Prepares r w u ∧ (u.runners.get r).connection = some c ∧ Calm r (u.changeRunner r (.begun c)) v
  | (.error _, v) => Prepares r w v

/-- What is done once the connection is known, and nothing is left open on it. -/
theorem begins_connected {isolation : Value} (hactive : w.activeAt r = false) (hu : Prepares r w u)
    (hc : (u.runners.get r).connection = some c) : Begins r w (ends (do
      if isolation.truth then setIsolation c isolation
      begin c
      changeRunner r fun x => { x with transaction := some c, active := true }
      log .debug "quarry.driver.query_runner" "Transaction started" [← sourceField]) u) := by
  have hbegin {x : World} (hux : Calm r u x) : Begins r w (ends (do
      begin c
      changeRunner r fun x => { x with transaction := some c, active := true }
      log .debug "quarry.driver.query_runner" "Transaction started" [← sourceField]) x) := by
    refine bind_elim (P := Begins r w) (fun f v hv => ?_) fun _ v hv => ?_
    · exact hu.trans_calm (hux.trans (Moves.of_ends (moves_begin c) hv))
    · have hxv : Calm r x v := Moves.of_ends (moves_begin c) hv
      have hlog : Calm r (v.changeRunner r (.begun c)) _ :=
        (moves_sourceField.bind fun field => moves_log .debug "quarry.driver.query_runner" "Transaction started"
          [field] false).along _
      rw [ends_bind_ok (ends_changeRunner ..)]
      exact ⟨hactive, c, v, hu.trans_calm (hux.trans hxv), (hux.trans hxv).connection hc, hlog⟩
  split
  · exact hbegin ((moves_setIsolation (R := Calm r) c isolation).along u)
  · exact hbegin (refl_of (Calm r) u)

theorem begins_openTransaction (r : Nat) (isolation : Value) (w : World) :
    Begins r w (ends (openTransaction r isolation) w) := by
  unfold openTransaction
  rw [ends_bind_ok (ends_runner r w)]
  refine unless_elim (P := Begins r w) (fun _ v hv => .inl (Moves.of_ends (moves_raise _) hv)) fun hactive => ?_
  have hactive : w.activeAt r = false := Bool.eq_false_iff.mpr hactive
  refine bind_elim (P := Begins r w) (fun f v hv => .inl (Moves.of_ends (moves_broadcast ..) hv)) fun _ p hp => ?_
  have hwp : Calm r w p := Moves.of_ends (moves_broadcast ..) hp
  have htakes := takes_connect r p
  refine bind_elim (P := Begins r w) (fun f q hq => ?_) fun c q hq => ?_
  all_goals rw [hq] at htakes
  · exact .inl (hwp.trans htakes)
  have hwq : Calm r w q := hwp.trans htakes.1
  have hin : ends (inTransaction c) q = (.ok (q.backend.connections.get c).inTransaction, q) := rfl
  rw [ends_bind_ok hin]
  refine guarded_elim (P := Begins r w) (fun _ => ?_) fun _ => begins_connected hactive (.inl hwq) htakes.2
  obtain ⟨t, ht, -, he⟩ := ends_commit c q
  have hprepares : Prepares r w t := .inr ⟨hactive, c, q, t, hwq, htakes.2, ht, refl_of (Calm r) t⟩
  cases hf : q.fault? .commit with
  | some f =>
    rw [hf] at he
    rw [ends_bind_error he]
    exact hprepares
  | none =>
    rw [hf] at he
    rw [ends_bind_ok he]
    exact begins_connected hactive hprepares (by rw [ht.runners]; exact htakes.2)

theorem starts_startTransaction (r : Nat) (isolation : Value) (w : World) :
    Starts r w (ends (startTransaction r isolation) w).1 (ends (startTransaction r isolation) w).2 := by
  have hopen := begins_openTransaction r isolation (w.locked r)
  have hlocked : Calm r w (w.locked r) := moves_locked w r
  rw [ends_startTransaction]
  unfold startOnly
  rcases ho : ends (openTransaction r isolation) (w.locked r) with ⟨f | a, v⟩
  all_goals rw [ho] at hopen
  · rw [ends_bind_error ho]
    exact .refused ((hopen.of_calm hlocked).trans_calm (moves_unlocked v r))
  · obtain ⟨hactive, c, u, hu, hc, hv⟩ := hopen
    have hooked : Hooked .beforeStart (SameHook .afterStart) := SameHook.hooked (by decide)
    have hhook : SameHook .afterStart w v :=
      trans_of (SameHook .afterStart) (moves_locked w r) ((turns_openTransaction r isolation).of_ends ho)
    have hstart {x : World} (hx : Calm r v x) : Starts r w (passes (w.refusal? .afterStart)) x :=
      .begun (hlocked.activeAt ▸ hactive) (hu.of_calm hlocked) hc (hv.trans hx)
    rw [ends_bind_ok ho]
    rcases broadcast_cases .afterStart r v with ⟨f, x, hr, hx, hb⟩ | ⟨x, hr, hx, hb⟩
    all_goals
      rw [hhook.refusal?] at hr
      rw [hr] at hstart
      rw [hb]
    · exact hstart (hx.trans (moves_unlocked x r))
    · exact hstart hx

/-! ## Committing and rolling back -/

/-- How the part of a commit or a rollback before the backend is told ends. -/
theorem ending_cases (h : Hook) (k : Nat → Session α) (r : Nat) (w : World) :
    (¬ (w.endable r ∧ w.refusal? h = none) ∧ ∃ f v, Calm r w v ∧
      ends (activeTransaction r >>= fun c => broadcast h >>= fun _ => k c) w = (.error f, v)) ∨
    (w.endable r ∧ w.refusal? h = none ∧ ∃ c u, (w.runners.get r).transaction = some c ∧ Calm r w u ∧
      ends (activeTransaction r >>= fun c => broadcast h >>= fun _ => k c) w = ends (k c) u) := by
  have hcalm : Calm r w (ends (activeTransaction r) w).2 := (moves_activeTransaction r).along w
  rcases activeTransaction_cases r w with ⟨he, c, hc⟩ | ⟨he, f, v, -, hf⟩
  · have ht := (transaction_of_activeTransaction hc).2.1
    rw [ends_bind_ok hc]
    rcases broadcast_cases h r w with ⟨f, v, hr, hv, hb⟩ | ⟨u, hr, hu, hb⟩
    · exact .inl ⟨fun h => by simp [hr] at h, f, v, hv, ends_bind_error hb⟩
    · exact .inr ⟨he, hr, c, u, ht, hu, ends_bind_ok hb⟩
  · rw [hf] at hcalm
    exact .inl ⟨fun h => he h.1, f, v, hcalm, ends_bind_error hf⟩

/-- Where the runner is told that its transaction is over, and that is logged. -/
theorem endsBy_of_answered {e : Event} {p q : World} (message : String)
    (hc : (w.runners.get r).transaction = some c) (hp : Calm r w p) (hq : Answered e p q) :
    ∃ v, EndsBy r c e w v ∧ ends (do
      changeRunner r fun x => { x with transaction := none, active := false }
      log .debug "quarry.driver.query_runner" message [← sourceField]) q = (.ok ⟨⟩, v) := by
  refine ⟨_, ⟨hc, p, q, hp, hq, ?_⟩, rfl⟩
  exact (moves_log (R := Calm r) .debug "quarry.driver.query_runner" message
    [("data_source", (q.changeRunner r .ended).sourceName)] false).along (q.changeRunner r .ended)

/-- The ending part of a commit, in a world that differs from `w` in how locks are held: it takes one of the ways in
which the transaction is not over, or it ends the transaction. -/
theorem endByCommit_course (hu : Relocked w u) :
    (∃ f v, (∀ x, Calm r v x → Commits r w (.error f) x) ∧ ends (endByCommit r) u = (.error f, v)) ∨
    (w.letsCommit r ∧ ∃ c v, EndsBy r c (.txCommit c) w v ∧ ends (endByCommit r) u = (.ok ⟨⟩, v)) := by
  have hcalm : Calm r w u := .of_relocked hu
  unfold endByCommit
  rcases ending_cases .beforeCommit (fun c => do
      txCommit c
      changeRunner r fun x => { x with transaction := none, active := false }
      log .debug "quarry.driver.query_runner" "Transaction committed" [← sourceField]) r u with
    ⟨hnot, f, v, hv, he⟩ | ⟨hend, hhook, c, p, hc, hp, he⟩
  · have hl : ¬ w.letsCommit r := (hu.letsCommit_iff r).not.mp fun h => hnot ⟨h.1, h.2.1⟩
    exact .inl ⟨f, v, fun x hx => .stopped hl ((hcalm.trans hv).trans hx), he⟩
  obtain ⟨q, hq, hcommit⟩ := ends_txCommit c p
  rw [hp.fault? rfl] at hcommit
  cases hf : u.fault? .txCommit with
  | some f =>
    rw [hf] at hcommit
    have hfault : w.fault? .txCommit ≠ none := by
      rw [← hu.fault?, hf]
      exact Option.some_ne_none f
    refine .inl ⟨f, q, fun x hx => ?_, he.trans (ends_bind_error hcommit)⟩
    exact .turnedDown (hcalm.activeAt ▸ hend.1) (hcalm.transaction ▸ hc) hfault (hcalm.trans hp) hq hx
  | none =>
    rw [hf] at hcommit
    obtain ⟨v, hv, hover⟩ := endsBy_of_answered "Transaction committed" hc hp hq
    exact .inr ⟨(hu.letsCommit_iff r).mp ⟨hend, hhook, hf⟩, c, v, hv.of_calm hcalm,
      he.trans ((ends_bind_ok hcommit).trans hover)⟩

/-- A commit up to the return of the lock. -/
theorem commitOnly_course (hu : Relocked w u) :
    (∃ f v, (∀ x, Calm r v x → Commits r w (.error f) x) ∧ ends (commitOnly r) u = (.error f, v)) ∨
    (w.letsCommit r ∧ w.refusal? .afterCommit = none ∧ ∃ c v, EndsBy r c (.txCommit c) w v ∧
      ends (commitOnly r) u = (.ok ⟨⟩, v)) := by
  unfold commitOnly
  rcases endByCommit_course (r := r) hu with ⟨f, v, hv, he⟩ | ⟨hl, c, p, hp, he⟩
  · exact .inl ⟨f, v, hv, ends_bind_error he⟩
  have hooked : Hooked .beforeCommit (SameHook .afterCommit) := SameHook.hooked (by decide)
  have hhook : SameHook .afterCommit w p :=
    trans_of (SameHook .afterCommit) (hu.hook _) ((turns_endByCommit r).of_ends he)
  rw [ends_bind_ok he, ← hhook.refusal?]
  rcases broadcast_cases .afterCommit r p with ⟨f, v, hr, hv, hb⟩ | ⟨v, hr, hv, hb⟩
  · refine .inl ⟨f, v, fun x hx => ?_, hb⟩
    exact .hooked hl (hp.trans_calm (hv.trans hx)) (hhook.refusal? ▸ hr)
  · exact .inr ⟨hl, hr, c, v, hp.trans_calm hv, hb⟩

/-- Made while the lock is held, which is taken once more for it. -/
theorem commits_holding (hd : w.dialect = .sqljs) : ∃ x v, Commits r w x v ∧
    ends (holding r do commitOnly r; dropLock r; flush r) w = (x, v) := by
  have hunlocked (v : World) : Calm r v (v.unlocked r) := moves_unlocked v r
  have hlock {x : Result Unit} {v : World} (he : ends (commitOnly r) (w.locked r) = (x, v)) :
      SameLock r (w.locked r) v := (turns_commitOnly r).of_ends he
  rw [ends_holding]
  rcases commitOnly_course (r := r) (relocked_locked w r) with ⟨f, v, hv, he⟩ | ⟨hl, hhook, c, p, hp, he⟩
  · refine ⟨_, _, hv _ (hunlocked v), ?_⟩
    rw [ends_bind_error he, (hlock he).lockFault?, World.lockFault?_locked]
    rfl
  · have hdrop : ends (dropLock r) p = (.ok ⟨⟩, p.unlocked r) := by
      rw [ends_dropLock, (hlock he).lockFault?, World.lockFault?_locked]
      rfl
    rw [ends_bind_ok he, ends_bind_ok hdrop]
    rcases hflush : ends (flush r) (p.unlocked r) with ⟨x, v⟩
    -- The lock is held as often as at first, and the call that took it once more gives it back.
    have hsame : SameLock r w v := trans_of (SameLock r) (hlock he).unlocked ((moves_flush r).of_ends hflush)
    rw [hsame.lockFault?]
    exact ⟨_, _, .ended hl (hp.trans_calm (hunlocked p)) hhook (by rw [if_pos hd, hflush]) (hunlocked v), rfl⟩

theorem commits_commitTransaction (r : Nat) (w : World) :
    Commits r w (ends (commitTransaction r) w).1 (ends (commitTransaction r) w).2 := by
  rw [ends_commitTransaction]
  split
  case isTrue hd =>
    obtain ⟨x, v, hv, he⟩ := commits_holding (r := r) hd
    rwa [he]
  case isFalse hd =>
    rcases commitOnly_course (r := r) (refl_of Relocked w) with ⟨f, v, hv, he⟩ | ⟨hl, hhook, c, p, hp, he⟩
    · rw [ends_bind_error he]
      exact hv v (refl_of (Calm r) v)
    · have hlock : SameLock r w p := (turns_commitOnly r).of_ends he
      have hresult : passes (w.lockFault? r) = outlived (w.lockFault? r) (.ok ⟨⟩) := by
        cases w.lockFault? r <;> rfl
      rw [ends_bind_ok he, ends_dropLock, hlock.lockFault?, hresult]
      exact .ended hl hp hhook (by rw [if_neg hd, ends_pure]) (moves_unlocked p r)

/-- Whether or not the backend rolls back, the runner is told that its transaction is over. -/
theorem ends_txRollback_ended (r c : Nat) (w : World) : ∃ v, Answered (.txRollback c) w v ∧
    ends (andFinally (txRollback c) (changeRunner r fun x => { x with transaction := none, active := false })) w =
      (passes (w.fault? .txRollback), v.changeRunner r .ended) := by
  obtain ⟨v, hv, he⟩ := ends_txRollback c w
  refine ⟨v, hv, ?_⟩
  rw [ends_andFinally, he, ends_changeRunner]
  rfl

theorem rollbacks_rollbackOnly (r : Nat) (w : World) : Rollbacks r w (ends (rollbackOnly r) w).2 := by
  have hafter (x : Result Unit) {v : World} (hv : ends (endByRollback r) w = (x, v)) :
      Calm r v (ends (rollbackOnly r) w).2 := by
    unfold rollbackOnly
    cases x with
    | error f =>
      rw [ends_bind_error hv]
      exact refl_of (Calm r) v
    | ok a =>
      rw [ends_bind_ok hv]
      exact (moves_broadcast (R := Calm r) ..).along v
  rcases ending_cases .beforeRollback (fun c => do
      andFinally (txRollback c) (changeRunner r fun x => { x with transaction := none, active := false })
      log .debug "quarry.driver.query_runner" "Transaction rolled back" [← sourceField]) r w with
    ⟨hl, f, v, hv, he⟩ | ⟨hend, hhook, c, u, hc, hu, he⟩
  · exact .stopped hl (hv.trans (hafter (.error f) he))
  · obtain ⟨q, hq, hover⟩ := ends_txRollback_ended r c u
    have hended : EndsBy r c (.txRollback c) w (q.changeRunner r .ended) :=
      ⟨hc, u, q, hu, hq, refl_of (Calm r) _⟩
    cases hf : u.fault? .txRollback with
    | some f =>
      rw [hf] at hover
      exact .ended ⟨hend, hhook⟩ (hended.trans_calm (hafter (.error f) (he.trans (ends_bind_error hover))))
    | none =>
      rw [hf] at hover
      have hlog : Calm r (q.changeRunner r .ended) (ends (do
          log .debug "quarry.driver.query_runner" "Transaction rolled back" [← sourceField])
          (q.changeRunner r .ended)).2 := (moves_sourceField.bind fun _ => moves_log ..).along _
      have hlogged := hended.trans_calm hlog
      exact .ended ⟨hend, hhook⟩ (hlogged.trans_calm (hafter (.ok ⟨⟩) (he.trans (ends_bind_ok hover))))

theorem rollbacks_rollbackAndUnlock (r : Nat) (w : World) : Rollbacks r w (ends (rollbackAndUnlock r) w).2 := by
  rw [ends_rollbackAndUnlock]
  split
  · exact (rollbacks_rollbackOnly r w).trans_calm (moves_unlocked _ r)
  · exact rollbacks_rollbackOnly r w

/-- The mark for the automatic save is gone after a rollback, whatever way it takes. -/
theorem rollbacks_rollbackTransaction (r : Nat) (w : World) : ∃ v, Rollbacks r w v ∧
    Calm r (if w.dialect = .sqljs then v.changeRunner r fun x => { x with dirty := false } else v)
      (ends (rollbackTransaction r) w).2 := by
  rw [ends_rollbackTransaction]
  split
  · rw [ends_holding, ends_andFinally, ends_changeRunner]
    exact ⟨_, (rollbacks_rollbackAndUnlock r (w.locked r)).of_relocked (relocked_locked w r), moves_unlocked _ r⟩
  · exact ⟨_, rollbacks_rollbackAndUnlock r w, refl_of (Calm r) _⟩

/-! ## Giving back -/

theorem detaches_closeConnection (r : Nat) (w : World) : Detaches r w (ends (closeConnection r) w).2 := by
  unfold closeConnection Detaches
  rw [ends_bind_ok (ends_runner r w), ends_bind_ok (ends_changeRunner ..)]
  cases (w.runners.get r).connection with
  | none => rfl
  | some c =>
    obtain ⟨v, hv, he⟩ := ends_close c (w.changeRunner r .detached)
    show Answered (.close c) (w.changeRunner r .detached) (ends (close c) (w.changeRunner r .detached)).2
    rw [he]
    exact hv

/-- Giving a runner back does nothing, or hands its changes to the automatic save, or closes its connection. -/
theorem release_cases (r : Nat) (w : World) :
    (ends (release r) w).2 = w ∨
    (w.dialect = .sqljs ∧ w.activeAt r = false ∧ ends (release r) w = ends (flush r) w) ∨
    Detaches r (w.changeRunner r fun x => { x with released := true }) (ends (release r) w).2 := by
  unfold release
  rw [ends_bind_ok (ends_get w)]
  cases hd : w.dialect
  case sqlite => exact .inl rfl
  case sqljs =>
    dsimp only
    rw [ends_bind_ok (ends_runner r w), World.activeAt]
    cases (w.runners.get r).active with
    | true => exact .inl rfl
    | false => exact .inr (.inl ⟨rfl, rfl, rfl⟩)
  all_goals
    dsimp only
    rw [ends_bind_ok (ends_runner r w)]
    cases (w.runners.get r).released with
    | true => exact .inl rfl
    | false => exact .inr (.inr (detaches_closeConnection r _))

end Session

end SqlWeave
