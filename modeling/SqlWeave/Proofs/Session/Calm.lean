import SqlWeave.Proofs.Session.Flag

/-!
# Calm steps and answered calls

What a runner does is a row of steps of two kinds. A calm step prepares or reports: it may take a
connection for the runner, but it sends no statement, ends nothing that statements did and asks for no
image. An answered call is the opposite: the backend is told one event, and takes the next answer that it
has in store for calls of this kind.
-/

namespace SqlWeave

namespace World

/-! ## Calm steps -/

/-- Runner `r` is the same in both worlds, or it has only taken a connection, which is new. -/
def SameRunner (r : Nat) (w v : World) : Prop :=
  v.runners.get r = w.runners.get r ∨
    ∃ c, (w.runners.get r).connection = none ∧
      v.runners.get r = { w.runners.get r with connection := some c } ∧
      w.backend.connections.next ≤ c ∧ c < v.backend.connections.next

/-- On the way from one world to the other, runner `r` has prepared or reported something, and no more. -/
structure Calm (r : Nat) (w v : World) : Prop where
  rest : v = { w with runners := v.runners, hookFaults := v.hookFaults, locks := v.locks, backend := v.backend,
                      trace := v.trace, logs := v.logs }
  trace : ∃ events, v.trace = w.trace ++ events ∧ ∀ e ∈ events, e.isIdle = true
  answers : w.backend.SameAnswers v.backend
  runner : SameRunner r w v

variable {r : Nat} {u v w : World}

namespace Calm

/-- A step that leaves the runners alone. -/
theorem of_notes (events : List Event) (hidle : ∀ e ∈ events, e.isIdle = true)
    (hbackend : w.backend.SameAnswers v.backend)
    (hrest : v = { w with hookFaults := v.hookFaults, locks := v.locks, backend := v.backend,
                          trace := w.trace ++ events, logs := v.logs }) : Calm r w v where
  rest := by rw [hrest]
  trace := ⟨events, by rw [hrest], hidle⟩
  answers := hbackend
  runner := .inl (by rw [hrest])

protected theorem trans (h : Calm r u v) (h' : Calm r v w) : Calm r u w where
  rest := by rw [h'.rest, h.rest]
  trace := told_trans h.trace h'.trace
  answers := h.answers.trans h'.answers
  runner := by
    rcases h.runner with hv | ⟨c, hnone, hv, hlow, hhigh⟩
    · rcases h'.runner with hw | ⟨d, hnone, hw, hlow, hhigh⟩
      · exact .inl (hw.trans hv)
      · rw [hv] at hnone hw
        exact .inr ⟨d, hnone, hw, Nat.le_trans h.answers.next_le hlow, hhigh⟩
    · rcases h'.runner with hw | ⟨d, hnone', -, -, -⟩
      · exact .inr ⟨c, hnone, hw.trans hv, hlow, Nat.lt_of_lt_of_le hhigh h'.answers.next_le⟩
      · -- A runner takes a connection only while it has none.
        rw [hv] at hnone'
        cases hnone'

instance : IsPreorder World (Calm r) where
  refl w := of_notes [] (by simp) (.refl _) (by rw [List.append_nil])
  trans _ _ _ := Calm.trans

instance : Asides (Calm r) where
  locked _ _ _ := of_notes [] (by simp) (.refl _) (by rw [List.append_nil, setLock])
  asked _ _ _ := of_notes [] (by simp) (.refl _) (by rw [List.append_nil, afterHook])

instance : Idles (Calm r) where
  logged _ _ := of_notes [] (by simp) (.refl _) (by rw [List.append_nil])
  idled _ e he := of_notes [e] (by simpa using he) (.refl _) rfl
  changed _ _ hf := of_notes [] (by simp) hf (by rw [List.append_nil, changeBackend])

/-! ### What calm steps leave alone -/

theorem cell (h : Calm r w v) :
    ∃ connection, v.runners.get r = { w.runners.get r with connection } := by
  rcases h.runner with hr | ⟨c, -, hr, -, -⟩
  · exact ⟨_, hr⟩
  · exact ⟨_, hr⟩

theorem activeAt (h : Calm r w v) : v.activeAt r = w.activeAt r := by
  obtain ⟨connection, hr⟩ := h.cell
  rw [World.activeAt, hr]
  rfl

theorem transaction (h : Calm r w v) : (v.runners.get r).transaction = (w.runners.get r).transaction := by
  obtain ⟨connection, hr⟩ := h.cell
  rw [hr]

theorem dirty (h : Calm r w v) : (v.runners.get r).dirty = (w.runners.get r).dirty := by
  obtain ⟨connection, hr⟩ := h.cell
  rw [hr]

/-- A connection that the runner has taken stays its connection. -/
theorem connection {c : Nat} (h : Calm r w v) (hc : (w.runners.get r).connection = some c) :
    (v.runners.get r).connection = some c := by
  rcases h.runner with hr | ⟨_, hnone, -, -, -⟩
  · rw [hr, hc]
  · rw [hc] at hnone
    cases hnone

theorem dialect (h : Calm r w v) : v.dialect = w.dialect := (congrArg World.dialect h.rest :)

theorem settings (h : Calm r w v) : v.settings = w.settings := (congrArg World.settings h.rest :)

theorem fault? (h : Calm r w v) {site : Site} (hs : site.isIdle = false) : v.fault? site = w.fault? site := by
  rw [World.fault?, World.fault?, h.answers.faults site hs]

theorem endable_iff (h : Calm r w v) : v.endable r ↔ w.endable r := by
  rw [endable, endable, h.activeAt, h.transaction]

end Calm

/-! ## Answered calls -/

end World

/-- The kind of a call on a connection that ends its transaction. -/
def Event.endSite? : Event → Option Site
  | .commit _ => some .commit
  | .rollback _ => some .rollback
  | .txCommit _ => some .txCommit
  | .txRollback _ => some .txRollback
  | .close _ => some .close
  | _ => none

namespace Backend

/-- The answer that waits for the next statement; an empty one when none is left. -/
def reply (b : Backend) : Reply := b.replies.head?.getD {}

/-- The failures that wait at calls of a kind, when event `e` has taken its answer. -/
def faultsAfter (b : Backend) (e : Event) (site : Site) : List (Option Failure) :=
  if e.endSite? = some site then (b.faults site).tail else b.faults site

/-- The answers that wait for statements, when event `e` has taken its answer. -/
def repliesAfter (b : Backend) : Event → List Reply
  | .exec .. => b.replies.tail
  | _ => b.replies

end Backend

namespace World

/-- The backend is told event `e`, takes its answer to it, and nothing else happens. -/
structure Answered (e : Event) (w v : World) : Prop where
  rest : v = { w with backend := v.backend, trace := w.trace ++ [e] }
  faults : v.backend.faults = w.backend.faultsAfter e
  replies : v.backend.replies = w.backend.repliesAfter e
  next : v.backend.connections.next = w.backend.connections.next

namespace Answered

variable {e : Event} {w v : World}

theorem trace (h : Answered e w v) : v.trace = w.trace ++ [e] := (congrArg World.trace h.rest :)

theorem runners (h : Answered e w v) : v.runners = w.runners := (congrArg World.runners h.rest :)

theorem dialect (h : Answered e w v) : v.dialect = w.dialect := (congrArg World.dialect h.rest :)

theorem activeAt (h : Answered e w v) (r : Nat) : v.activeAt r = w.activeAt r := by
  rw [World.activeAt, World.activeAt, h.runners]

theorem hook (h : Answered e w v) (g : Hook) : SameHook g w v where
  subscribers := (congrArg World.subscribers h.rest :)
  waiting i := congrFun (congrFun (congrArg World.hookFaults h.rest :) i) g

theorem fault? (h : Answered e w v) {site : Site} (hs : e.endSite? ≠ some site) :
    v.fault? site = w.fault? site := by
  rw [World.fault?, World.fault?, h.faults, Backend.faultsAfter, if_neg hs]

end Answered

end World

namespace Session

open World (Calm Answered)

variable {r c : Nat} {w v : World}

/-! ## Which steps are calm -/

/-- A connection that is handed out is new. -/
theorem fresh_of_obtainConnection (h : ends obtainConnection w = (.ok c, v)) :
    w.backend.connections.next ≤ c ∧ c < v.backend.connections.next := by
  unfold obtainConnection at h
  rw [ends_bind_ok (ends_get w)] at h
  split at h
  · obtain ⟨u, hu⟩ := ends_raise (α := Nat) (Failure.notConnected w.sourceName) w
    rw [hu] at h
    cases h
  · unfold connectEngine at h
    rw [ends_bind_ok (ends_emit ..)] at h
    obtain ⟨_, u, hf, h⟩ := of_ends_bind_ok h
    have hcalm : Calm 0 _ u := Moves.of_ends (moves_faultIdle .connect rfl) hf
    rw [ends_bind_ok (ends_get u)] at h
    cases h
    exact ⟨hcalm.answers.next_le, Nat.lt_succ_self _⟩

/-- How taking a connection ends: it is calm, and when it ends well, the connection is the runner's. -/
def Takes (r : Nat) (w : World) : Result Nat × World → Prop
  | (.ok c, v) => Calm r w v ∧ (v.runners.get r).connection = some c
  | (.error _, v) => Calm r w v

theorem takes_connect (r : Nat) (w : World) : Takes r w (ends (connect r) w) := by
  unfold connect
  rw [ends_bind_ok (ends_runner r w)]
  refine unless_elim (P := Takes r w) (fun _ v hv => Moves.of_ends (moves_raise _) hv) fun _ => ?_
  dsimp only
  split
  case h_1 c hc => exact ⟨refl_of (Calm r) w, hc⟩
  case h_2 hnone =>
    refine bind_elim (P := Takes r w) (fun f v hv => Moves.of_ends moves_obtainConnection hv) fun c v hv => ?_
    have hcalm : Calm r w v := Moves.of_ends moves_obtainConnection hv
    have hsame : v.runners = w.runners := by
      have := (moves_obtainConnection (R := World.SameCore)).along w
      rw [hv] at this
      exact this.runners
    -- The runner has no connection yet, and the one that it takes is new.
    obtain ⟨hlow, hhigh⟩ := fresh_of_obtainConnection hv
    rw [ends_bind_ok (ends_changeRunner ..)]
    refine ⟨⟨?_, hcalm.trace, hcalm.answers, .inr ⟨c, hnone, ?_, hlow, hhigh⟩⟩, ?_⟩
    · show World.changeRunner .. = _
      rw [World.changeRunner, hcalm.rest]
    · rw [World.changeRunner_get_self, hsame]
    · rw [World.changeRunner_get_self]

/-! ## Which calls are answered -/

/-- A call at the backend may fail, and takes the answer that waits for calls of its kind. -/
theorem ends_fault (site : Site) (w : World) : ends (fault site) w = (passes (w.fault? site),
    w.changeBackend fun b => { b with faults := fun s => if s = site then (b.faults site).tail else b.faults s }) := by
  unfold fault World.fault?
  rw [ends_bind_ok (ends_get w)]
  cases hf : w.backend.faults site with
  | nil =>
    have hsame : (fun s => if s = site then (w.backend.faults site).tail else w.backend.faults s) =
        w.backend.faults := by
      funext s
      split
      case isTrue hs => rw [hs, hf, List.tail_nil]
      case isFalse => rfl
    rw [World.changeBackend, hsame]
    rfl
  | cons next rest =>
    rw [World.changeBackend, hf]
    cases next <;> rfl

/-- A call that ends the transaction of a connection: the backend answers it, and where it fails, the
connections are as they were. -/
theorem answered_endingCall {e : Event} {site : Site} (he : e.endSite? = some site) (c : Nat)
    (f : Connection → Connection) (w : World) :
    ∃ v, Answered e w v ∧ (w.fault? site ≠ none → v.backend.connections = w.backend.connections) ∧
      ends (do emit e; fault site; changeConnection c f) w = (passes (w.fault? site), v) := by
  have hfaults : w.backend.faultsAfter e =
      fun s => if s = site then (w.backend.faults site).tail else w.backend.faults s := by
    funext s
    rw [Backend.faultsAfter, he]
    by_cases hs : s = site
    · rw [if_pos (by rw [hs]), if_pos hs, hs]
    · rw [if_neg fun h => hs (Option.some.inj h).symm, if_neg hs]
  have hreplies : w.backend.repliesAfter e = w.backend.replies := by
    cases e <;> first | rfl | cases he
  have hnoted : World.fault? { w with trace := w.trace ++ [e] } site = w.fault? site := rfl
  rw [ends_bind_ok (ends_emit ..), ends_bind, ends_fault, hnoted]
  cases w.fault? site with
  | some failure =>
    refine ⟨_, ?_, fun _ => ?_, rfl⟩
    · exact ⟨rfl, hfaults.symm, hreplies.symm, rfl⟩
    · rfl
  | none =>
    refine ⟨_, ?_, fun h => absurd rfl h, rfl⟩
    exact ⟨rfl, hfaults.symm, hreplies.symm, rfl⟩

theorem ends_commit (c : Nat) (w : World) : ∃ v, Answered (.commit c) w v ∧
    (w.fault? .commit ≠ none → v.backend.connections = w.backend.connections) ∧
    ends (commit c) w = (passes (w.fault? .commit), v) :=
  answered_endingCall rfl c _ w

theorem ends_rollback (c : Nat) (w : World) : ∃ v, Answered (.rollback c) w v ∧
    ends (rollback c) w = (passes (w.fault? .rollback), v) := by
  obtain ⟨v, hv, -, he⟩ := answered_endingCall (e := .rollback c) rfl c _ w
  exact ⟨v, hv, he⟩

theorem ends_txCommit (c : Nat) (w : World) : ∃ v, Answered (.txCommit c) w v ∧
    ends (txCommit c) w = (passes (w.fault? .txCommit), v) := by
  obtain ⟨v, hv, -, he⟩ := answered_endingCall (e := .txCommit c) rfl c _ w
  exact ⟨v, hv, he⟩

theorem ends_txRollback (c : Nat) (w : World) : ∃ v, Answered (.txRollback c) w v ∧
    ends (txRollback c) w = (passes (w.fault? .txRollback), v) := by
  obtain ⟨v, hv, -, he⟩ := answered_endingCall (e := .txRollback c) rfl c _ w
  exact ⟨v, hv, he⟩

theorem ends_close (c : Nat) (w : World) : ∃ v, Answered (.close c) w v ∧
    ends (close c) w = (passes (w.fault? .close), v) := by
  obtain ⟨v, hv, -, he⟩ := answered_endingCall (e := .close c) rfl c _ w
  exact ⟨v, hv, he⟩

theorem ends_nextReply (w : World) : ends nextReply w =
    (.ok w.backend.reply, w.changeBackend fun b => { b with replies := b.replies.tail }) := by
  unfold nextReply
  rw [ends_bind_ok (ends_get w), Backend.reply, World.changeBackend]
  cases hr : w.backend.replies with
  | nil =>
    have hsame : { w.backend with replies := [] } = w.backend := by rw [← hr]
    rw [List.tail_nil, hsame]
    rfl
  | cons reply rest => rfl

/-- How a statement ends that the backend answers with a reply. -/
def settled (reply : Reply) : Result Reply :=
  match reply.failure with
  | some f => .error f
  | none => .ok reply

/-- What is kept of a good reply changes neither the connections nor the answers that are in store. -/
theorem ends_keepReply (c : Nat) (reply : Reply) (w : World) :
    ∃ natives lastRowId, ends (do
      if !reply.lastRowId.isNull then
        modify fun w => w.changeBackend fun b => { b with lastRowId := reply.lastRowId }
      match ((← get).backend.connections.get c).native with
      | some n =>
        modify fun w => w.changeBackend fun b => { b with natives := b.natives.update n Native.afterStatement }
      | none => pure ()
      pure reply : Session Reply) w = (.ok reply, w.changeBackend fun b => { b with natives, lastRowId }) := by
  have natives (u : World) : ∃ natives, ends (do
      match ((← get).backend.connections.get c).native with
      | some n =>
        modify fun w => w.changeBackend fun b => { b with natives := b.natives.update n Native.afterStatement }
      | none => pure ()
      pure reply : Session Reply) u = (.ok reply, u.changeBackend fun b => { b with natives }) := by
    rw [ends_bind_ok (ends_get u)]
    cases (u.backend.connections.get c).native with
    | some n => exact ⟨_, rfl⟩
    | none => exact ⟨u.backend.natives, rfl⟩
  cases reply.lastRowId.isNull with
  | false =>
    obtain ⟨n, hn⟩ := natives (w.changeBackend fun b => { b with lastRowId := reply.lastRowId })
    exact ⟨n, reply.lastRowId, hn⟩
  | true =>
    obtain ⟨n, hn⟩ := natives w
    exact ⟨n, w.backend.lastRowId, hn⟩

/-- A statement that is sent: the backend answers it, and the connection is in a transaction. -/
theorem answered_exec (c : Nat) (sql : Value) (values : List Value) (w : World) :
    ∃ v, Answered (.exec c sql values) w v ∧ (v.backend.connections.get c).inTransaction = true ∧
      ends (exec c sql values) w = (settled w.backend.reply, v) := by
  have hin (b : Backend) : ((b.connections.update c fun x => { x with inTransaction := true }).get c).inTransaction
      = true := by rw [Store.get_update_self]
  have hchange (u : World) : ends (changeConnection c fun x => { x with inTransaction := true }) u = (.ok ⟨⟩,
      u.changeBackend fun b =>
        { b with connections := b.connections.update c fun x => { x with inTransaction := true } }) := rfl
  have hreply (b : Backend) (connections : Store Connection) :
      Backend.reply { b with connections } = b.reply := rfl
  unfold exec settled
  rw [ends_bind_ok (ends_emit ..), ends_bind_ok (hchange _), ends_bind_ok (ends_nextReply _)]
  simp only [World.changeBackend, hreply]
  cases w.backend.reply.failure with
  | some f =>
    refine ⟨_, ?_, ?_, rfl⟩
    · exact ⟨rfl, rfl, rfl, rfl⟩
    · exact hin w.backend
  | none =>
    obtain ⟨natives, lastRowId, hkept⟩ := ends_keepReply c w.backend.reply _
    refine ⟨_, ?_, ?_, hkept⟩
    · exact ⟨rfl, rfl, rfl, rfl⟩
    · exact hin w.backend

end Session

end SqlWeave
