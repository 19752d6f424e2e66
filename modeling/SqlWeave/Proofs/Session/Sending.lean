import Mathlib.Data.List.Nodup
import SqlWeave.Proofs.Session.Course
import SqlWeave.Proofs.Session.Journal
import SqlWeave.Proofs.Session.StatementTransaction

/-!
# The statements that connections are told

Of all calls on a runner its query alone sends a statement: at most once, and once unless it fails. So what the
execution of a builder sends is told by its journal, which enters the query at most once.
-/

namespace SqlWeave

open Session Execution

/-- Does the event tell of a statement on a connection? -/
def Event.isStatement : Event → Bool
  | .exec .. => true
  | _ => false

theorem Event.isStatement_of_isIdle {e : Event} (h : e.isIdle = true) : e.isStatement = false := by
  cases e <;> first | rfl | cases h

theorem Event.isStatement_of_isImage {e : Event} (h : e.isImage = true) : e.isStatement = false := by
  cases e <;> first | rfl | cases h

namespace World

/-- The statements that connections are told on the way from one world to the other, in order. -/
def Sent (sent : List Event) (w v : World) : Prop :=
  ∃ events, v.trace = w.trace ++ events ∧ events.filter Event.isStatement = sent

namespace Sent

variable {xs ys : List Event} {u v w : World}

theorem trans (h : Sent xs u v) (h' : Sent ys v w) : Sent (xs ++ ys) u w := by
  obtain ⟨events, he, rfl⟩ := h
  obtain ⟨events', he', rfl⟩ := h'
  exact ⟨events ++ events', by rw [he', he, List.append_assoc], List.filter_append ..⟩

theorem of_trace_eq (h : v.trace = w.trace) : Sent [] w v := ⟨[], by rw [h, List.append_nil], rfl⟩

theorem of_event {e : Event} (h : e.isStatement = false) (hv : v.trace = w.trace ++ [e]) : Sent [] w v :=
  ⟨[e], hv, List.filter_cons_of_neg (by rw [h]; exact Bool.false_ne_true)⟩

theorem then_nothing (h : Sent xs u v) (h' : Sent [] v w) : Sent xs u w := by
  have hall := h.trans h'
  rwa [List.append_nil] at hall

instance : IsPreorder World (Sent []) where
  refl _ := .of_trace_eq rfl
  trans _ _ _ huv hvw := huv.trans hvw

instance : Images (Sent []) where
  logged _ _ := .of_trace_eq rfl
  idled _ _ he := .of_event (Event.isStatement_of_isIdle he) rfl
  changed _ _ _ := .of_trace_eq rfl
  imaged _ _ he := .of_event (Event.isStatement_of_isImage he) rfl
  asked _ _ := .of_trace_eq rfl
  stored _ _ := .of_trace_eq rfl

instance : Asides (Sent []) where
  locked _ _ _ := .of_trace_eq rfl
  asked _ _ _ := .of_trace_eq rfl

instance : Employs (Sent []) := ⟨fun _ _ _ => .of_trace_eq rfl⟩

theorem of_calm {r : Nat} (h : Calm r w v) : Sent [] w v := by
  obtain ⟨events, he, hidle⟩ := h.trace
  refine ⟨events, he, List.filter_eq_nil_iff.mpr fun e hmem => ?_⟩
  rw [Event.isStatement_of_isIdle (hidle e hmem)]
  exact Bool.false_ne_true

end Sent

end World

namespace Session

open World (Sent Calm Answered)

variable {α β : Type} {r c : Nat} {sql : Value} {values : List Value} {w : World}

/-! ## Calls that send nothing -/

theorem moves_endingCall {e : Event} (h : e.isStatement = false) (site : Site) (c : Nat)
    (f : Connection → Connection) : Moves (Sent []) (do emit e; fault site; changeConnection c f) :=
  moves_connectionCall (.modify fun _ => .of_event h rfl) (moves_fault_of fun _ _ => .of_trace_eq rfl) c f

theorem moves_connectSilently (r : Nat) : Moves (Sent []) (connect r) :=
  moves_connect_of r moves_obtainConnection fun _ => moves_serve ..

theorem moves_startSilently (r : Nat) (isolation : Value) : Moves (Sent []) (startTransaction r isolation) :=
  moves_startTransaction_of r isolation
    (moves_openTransaction_of r isolation (moves_connectSilently r) (fun _ => moves_endingCall rfl ..)
      fun _ => moves_serve ..)

theorem moves_commitSilently (r : Nat) : Moves (Sent []) (commitTransaction r) :=
  moves_commitTransaction_of r (fun _ => moves_endingCall rfl ..) (moves_serve ..) (moves_serve ..)

theorem moves_rollbackSilently (r : Nat) : Moves (Sent []) (rollbackTransaction r) :=
  moves_rollbackTransaction_of r (fun _ => moves_endingCall rfl ..) (moves_serve ..) (moves_serve ..)

theorem moves_releaseSilently (r : Nat) : Moves (Sent []) (release r) :=
  moves_release_of r fun _ => moves_endingCall rfl ..

/-! ## The query -/

theorem sent_bind {sent : List Event} {s : Session α} {k : α → Session β} (h : Sent sent w (ends s w).2)
    (hk : ∀ a, Moves (Sent []) (k a)) : Sent sent w (ends (s >>= k) w).2 := by
  rw [ends_bind]
  rcases hs : ends s w with ⟨f | a, v⟩
  all_goals rw [hs] at h
  · exact h
  · exact h.then_nothing ((hk a).along v)

/-- The call sends the statement at most once, and once unless it fails. -/
def SendsOnce (sql : Value) (values : List Value) (s : Session α) : Prop :=
  ∀ w, (∃ c, Sent [.exec c sql values] w (ends s w).2) ∨ Sent [] w (ends s w).2 ∧ ∃ f, (ends s w).1 = .error f

namespace SendsOnce

theorem after {s : Session β} {k : β → Session α} (hs : Moves (Sent []) s) (hk : ∀ b, SendsOnce sql values (k b)) :
    SendsOnce sql values (s >>= k) := by
  intro w
  have hw := hs.along w
  rw [ends_bind]
  rcases h : ends s w with ⟨f | b, v⟩
  all_goals rw [h] at hw
  · exact .inr ⟨hw, f, rfl⟩
  · rcases hk b v with ⟨c, hsent⟩ | ⟨hnone, f, he⟩
    · exact .inl ⟨c, hw.trans hsent⟩
    · exact .inr ⟨hw.trans hnone, f, he⟩

theorem guarded {p : Prop} [Decidable p] {s : Session PUnit} {k : PUnit → Session α} (hs : Moves (Sent []) s)
    (hk : SendsOnce sql values (k ⟨⟩)) : SendsOnce sql values (if p then s >>= k else k ⟨⟩) := by
  split
  · exact after hs fun _ => hk
  · exact hk

end SendsOnce

theorem sent_execAndCommit (r c : Nat) (sql : Value) (values : List Value) (w : World) :
    Sent [.exec c sql values] w (ends (execAndCommit r c sql values) w).2 := by
  obtain ⟨v, hv, -, he⟩ := answered_exec c sql values w
  have hexec : Sent [.exec c sql values] w (ends (exec c sql values) w).2 := by
    rw [he]
    exact ⟨[.exec c sql values], congrArg World.trace hv.rest, rfl⟩
  exact sent_bind hexec fun _ => (moves_runner r).bind fun _ =>
    .guarded (moves_endingCall rfl ..) (Moves.get.bind fun _ => .pure _)

theorem positional_list (values : List Value) : positional (.list values) = .ok values := by
  cases values <;> rfl

theorem sendsOnce_runStatement (r : Nat) (sql : Value) (values : List Value) :
    SendsOnce sql values (runStatement r sql (.list values)) := by
  unfold runStatement
  refine .after (moves_runner r) fun _ => .guarded (moves_raise _) ?_
  refine .after (moves_connectSilently r) fun c => ?_
  rw [positional_list, show ofResult (.ok values) = pure values from rfl, pure_bind]
  refine .after (moves_statementFields ..) fun fields => .after Moves.get fun _ => .after (moves_log ..) fun _ =>
    .after moves_now fun started w => .inl ⟨c, sent_bind ?_ fun answer => ?_⟩
  · rw [ends_attempt]
    exact sent_execAndCommit r c sql values w
  · split
    · exact (moves_cleanUp_of r c fields started _ (moves_endingCall rfl ..)).bind fun _ =>
        (moves_ofResult _).bind fun _ => moves_raise _
    · exact (moves_warnIfSlow ..).bind fun _ => (moves_afterQuery_of r sql fun _ => moves_serve ..).bind fun _ => .pure _

theorem sendsOnce_query (r : Nat) (sql : Value) (values : List Value) :
    SendsOnce sql values (query r sql (.list values)) := by
  refine .after Moves.get fun x w => ?_
  obtain ⟨u, v, hu, hv, he⟩ := ends_traced r (.ofStatement x sql) (runStatement r sql (.list values)) w
  rw [he]
  rcases sendsOnce_runStatement r sql values u with ⟨c, hsent⟩ | ⟨hnone, f, hfails⟩
  · exact .inl ⟨c, ((Sent.of_calm hu).trans hsent).then_nothing (.of_calm hv)⟩
  · exact .inr ⟨((Sent.of_calm hu).trans hnone).then_nothing (.of_calm hv), f, hfails⟩

end Session

/-! ## The journal of a statement -/

/-- What is sent is told by the queries that were entered: each has sent the statement once, or has failed. -/
structure Accounts (sql : Value) (values : List Value) (made : List Made) (sent : List Event) : Prop where
  own : ∀ e ∈ sent, ∃ c, e = .exec c sql values
  le : sent.length ≤ made.countP (·.1 = .query)
  ge : made.countP (fun m => m.1 = .query ∧ m.2 = none) ≤ sent.length

/-- What is sent by a statement of which these calls were made: nothing, and then its query has not succeeded, or the
statement once, and then its query was made. -/
inductive OneStatement (sql : Value) (values : List Value) (made : List Made) : List Event → Prop
  | none (h : (.query, none) ∉ made) : OneStatement sql values made []
  | once (c : Nat) (h : .query ∈ made.map Prod.fst) : OneStatement sql values made [.exec c sql values]

section
variable {sql : Value} {values : List Value} {made made' : List Made} {sent sent' : List Event} {step : Stage}
  {α β : Type} {s : Session α}

namespace Accounts

theorem nil : Accounts sql values [] [] := ⟨nofun, Nat.le_refl _, Nat.le_refl _⟩

theorem append (h : Accounts sql values made sent) (h' : Accounts sql values made' sent') :
    Accounts sql values (made ++ made') (sent ++ sent') where
  own := List.forall_mem_append.mpr ⟨h.own, h'.own⟩
  le := by
    rw [List.length_append, List.countP_append]
    exact Nat.add_le_add h.le h'.le
  ge := by
    rw [List.length_append, List.countP_append]
    exact Nat.add_le_add h.ge h'.ge

theorem of_not_query (h : step ≠ .query) (failure : Option Failure) : Accounts sql values [(step, failure)] [] where
  own := nofun
  le := Nat.zero_le _
  ge := by simp [h]

/-- A query that was made once. -/
theorem oneStatement (h : Accounts sql values made sent) (hnodup : (made.map Prod.fst).Nodup) :
    OneStatement sql values made sent := by
  have hcount : made.countP (·.1 = .query) = (made.map Prod.fst).count .query := by
    rw [List.count, List.countP_map]
    rfl
  have honce : sent.length ≤ 1 := Nat.le_trans h.le (hcount ▸ List.nodup_iff_count_le_one.mp hnodup .query)
  match sent, honce with
  | [], _ =>
    refine .none fun hmem => ?_
    have hpos : 0 < made.countP (fun m => m.1 = .query ∧ m.2 = none) :=
      List.countP_pos_iff.mpr ⟨_, hmem, decide_eq_true ⟨rfl, rfl⟩⟩
    exact absurd h.ge (Nat.not_le_of_gt hpos)
  | [e], _ =>
    obtain ⟨c, rfl⟩ := h.own e List.mem_cons_self
    refine .once c (List.count_pos_iff.mp ?_)
    rw [← hcount]
    exact h.le

end Accounts

/-- Between the worlds the statement is sent as the calls that were entered tell. -/
def SendsAs (sql : Value) (values : List Value) (made : List Made) (w v : World) : Prop :=
  ∃ sent, World.Sent sent w v ∧ Accounts sql values made sent

open Journaled (Graded Keeps)

instance : Graded (SendsAs sql values) where
  refl w := ⟨[], refl_of (World.Sent []) w, .nil⟩
  trans := by
    rintro made made' u v w ⟨sent, hsent, h⟩ ⟨sent', hsent', h'⟩
    exact ⟨sent ++ sent', hsent.trans hsent', h.append h'⟩

theorem keeps_unnoted (h : Moves (World.Sent []) s) : Keeps (SendsAs sql values) (Journaled.unnoted s) s :=
  .unnoted fun w => ⟨[], h.along w, .nil⟩

theorem keeps_noted (hstep : step ≠ .query) (h : Moves (World.Sent []) s) :
    Keeps (SendsAs sql values) (Journaled.noted step s) s :=
  .noted fun w => ⟨[], h.along w, .of_not_query hstep _⟩

theorem keeps_query (h : SendsOnce sql values s) : Keeps (SendsAs sql values) (Journaled.noted .query s) s := by
  refine .noted fun w => ?_
  rcases h w with ⟨c, hsent⟩ | ⟨hnone, f, he⟩
  · refine ⟨_, hsent, by simp, by simp, ?_⟩
    exact List.countP_le_length
  · rw [he]
    exact ⟨[], hnone, nofun, Nat.zero_le _, by simp [failure?]⟩

end

namespace Session

open Journaled (Keeps)

/-- The journal of a builder's statement tells what is sent for it. -/
theorem keeps_stepsOf (b : Builder Nat) (payloads : List Value) (r : Nat) (sql : String) (values : List Value)
    (wanted obtained : Bool) : Keeps (SendsAs (.text sql) values)
      (statement (runnerOps r).journaled wanted obtained (fun f => Journaled.unnoted (noteRollback f))
        (stepsOf b payloads r sql values).journaled)
      (statement (runnerOps r) wanted obtained noteRollback (stepsOf b payloads r sql values)) := by
  refine keeps_statement (keeps_unnoted ((moves_runner r).bind fun _ => .pure _))
    (keeps_noted nofun (moves_startSilently r .null)) (keeps_noted nofun (moves_commitSilently r))
    (keeps_noted nofun (moves_rollbackSilently r)) (keeps_noted nofun (moves_releaseSilently r)) ?_
    (fun f => keeps_unnoted (moves_noteRollback f)) wanted obtained
  unfold Steps.run
  refine Keeps.bind (keeps_noted nofun (moves_stepsOf_before b payloads r sql values)) fun _ => ?_
  refine Keeps.bind (keeps_query (sendsOnce_query r (.text sql) values)) fun answer => ?_
  refine Keeps.bind (keeps_noted nofun (moves_outcomeOf b answer)) fun result => ?_
  exact Keeps.bind (keeps_noted nofun (moves_stepsOf_after b payloads r sql values)) fun _ => .pure result

end Session

end SqlWeave
