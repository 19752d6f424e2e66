import SqlWeave.Proofs.Session.History

/-!
# What holds of a runner between its calls

Between any two calls a runner is sound: its flag says whether it holds a transaction, a transaction stands on the
connection that the runner holds, and a released runner holds none. The connections that it was handed are
accounted for: in their order they are those that it has closed, and the one that it holds.

Each call is followed step by step. Steps at the backend leave the runner alone, and only taking a connection and
letting go of it touch the account; a start makes its mark on the runner while the connection is held.
-/

namespace SqlWeave

open Session World

/-! ## Sound runners -/

/-- How a runner stands between calls. -/
structure Runner.Sound (x : Runner) : Prop where
  active_iff : x.active = true ↔ x.transaction.isSome = true
  connected : ∀ c, x.transaction = some c → x.connection = some c
  released : x.released = true → x.connection = none ∧ x.transaction = none

namespace Runner

variable {x : Runner}

theorem sound_new (mode : Value) : Sound { mode } := ⟨by simp, nofun, nofun⟩

theorem sound_detached (x : Runner) : x.detached.Sound := ⟨by simp [detached], nofun, fun _ => ⟨rfl, rfl⟩⟩

theorem Sound.ended (h : x.Sound) : x.ended.Sound :=
  ⟨by simp [Runner.ended], nofun, fun hr => ⟨(h.released hr).1, rfl⟩⟩

theorem Sound.begun (h : x.Sound) {c : Nat} (hc : x.connection = some c) : (x.begun c).Sound := by
  refine ⟨by simp [Runner.begun], fun d hd => hc.trans hd, fun hr => ?_⟩
  rw [(h.released hr).1] at hc
  cases hc

theorem Sound.marked (h : x.Sound) (dirty : Bool) : { x with dirty }.Sound := ⟨h.active_iff, h.connected, h.released⟩

/-- A runner that was not released takes a connection. -/
theorem Sound.taking (h : x.Sound) (hr : x.released = false) (hc : x.connection = none) (c : Nat) :
    { x with connection := some c }.Sound := by
  refine ⟨h.active_iff, fun d hd => ?_, fun hreleased => ?_⟩
  · have := h.connected d hd
    rw [hc] at this
    cases this
  · rw [hr] at hreleased
    cases hreleased

end Runner

/-! ## The account of connections -/

/-- The connections that the events tell the close of. -/
def Event.closed? : Event → Option Nat
  | .close c => some c
  | _ => none

theorem Event.closed?_of_not_isStock {e : Event} (h : e.isStock = false) : e.closed? = none := by
  cases e <;> first | rfl | cases h

namespace World

/-- The connection that runner `r` holds, if any. -/
def held (w : World) (r : Nat) : List Nat := (w.runners.get r).connection.toList

/-- The connections that were handed out on the way from one world to the other. -/
def handedOut (w v : World) : List Nat :=
  List.range' w.backend.connections.next (v.backend.connections.next - w.backend.connections.next)

/-- What runner `r` held and what was handed out on the way is, in this order, what was closed on the way and what
it holds. -/
structure Balances (r : Nat) (w v : World) : Prop where
  next_le : w.backend.connections.next ≤ v.backend.connections.next
  account : ∃ events, v.trace = w.trace ++ events ∧
    w.held r ++ handedOut w v = events.filterMap Event.closed? ++ v.held r

variable {r : Nat} {u v w : World}

theorem handedOut_trans (h : u.backend.connections.next ≤ v.backend.connections.next)
    (h' : v.backend.connections.next ≤ w.backend.connections.next) :
    handedOut u v ++ handedOut v w = handedOut u w := by
  obtain ⟨m, hm⟩ := Nat.exists_eq_add_of_le h
  obtain ⟨n, hn⟩ := Nat.exists_eq_add_of_le h'
  have hmn : u.backend.connections.next + m + n - u.backend.connections.next = m + n := by omega
  unfold handedOut
  rw [hn, hm, Nat.add_sub_cancel_left, Nat.add_sub_cancel_left, hmn, List.range'_append_1]

theorem Balances.trans (h : Balances r u v) (h' : Balances r v w) : Balances r u w where
  next_le := Nat.le_trans h.next_le h'.next_le
  account := by
    obtain ⟨xs, hv, hxs⟩ := h.account
    obtain ⟨ys, hw, hys⟩ := h'.account
    refine ⟨xs ++ ys, by rw [hw, hv, List.append_assoc], ?_⟩
    rw [← handedOut_trans h.next_le h'.next_le, ← List.append_assoc, hxs, List.append_assoc, hys,
      List.filterMap_append, List.append_assoc]

/-- Nothing is taken and nothing is closed. -/
theorem Balances.of_same (events : List Event) (htrace : v.trace = w.trace ++ events)
    (hclosed : ∀ e ∈ events, e.closed? = none) (hnext : v.backend.connections.next = w.backend.connections.next)
    (hheld : v.held r = w.held r) : Balances r w v where
  next_le := Nat.le_of_eq hnext.symm
  account := by
    refine ⟨events, htrace, ?_⟩
    rw [handedOut, hnext, Nat.sub_self, List.filterMap_eq_nil_iff.mpr hclosed, hheld]
    exact List.append_nil _

/-- The runner that has let go of its connection. -/
theorem Detaches.runner (h : Detaches r w v) : v.runners.get r = (w.runners.get r).detached := by
  have hget : (w.changeRunner r .detached).runners.get r = (w.runners.get r).detached := changeRunner_get_self ..
  unfold Detaches at h
  split at h
  · rw [h.runners, hget]
  · rw [h, hget]

/-- On the way from one world to the other runner `r` stays sound, and its connections are accounted for. -/
structure Manages (r : Nat) (w v : World) : Prop where
  sound : (w.runners.get r).Sound → (v.runners.get r).Sound
  balances : Balances r w v

namespace Manages

/-- A step that leaves the runners alone, and tells of no connection that is handed out or closed. -/
theorem of_notes (events : List Event) (htrace : v.trace = w.trace ++ events)
    (hclosed : ∀ e ∈ events, e.closed? = none) (hnext : v.backend.connections.next = w.backend.connections.next)
    (hrunners : v.runners = w.runners) : Manages r w v where
  sound h := by rwa [hrunners]
  balances := .of_same events htrace hclosed hnext (by rw [held, hrunners, held])

protected theorem trans (h : Manages r u v) (h' : Manages r v w) : Manages r u w :=
  ⟨h'.sound ∘ h.sound, h.balances.trans h'.balances⟩

instance : IsPreorder World (Manages r) where
  refl w := of_notes [] (List.append_nil _).symm (by simp) rfl rfl
  trans _ _ _ := Manages.trans

theorem of_event (w : World) {e : Event} (he : e.closed? = none) : Manages r w { w with trace := w.trace ++ [e] } :=
  of_notes [e] rfl (by simpa using he) rfl rfl

theorem of_change (w : World) {f : Backend → Backend}
    (h : (f w.backend).connections.next = w.backend.connections.next) : Manages r w (w.changeBackend f) :=
  of_notes [] (List.append_nil _).symm (by simp) h rfl

/-- A change of the runner that leaves it its connection. -/
theorem of_changeRunner (w : World) {f : Runner → Runner}
    (hsound : (w.runners.get r).Sound → (f (w.runners.get r)).Sound)
    (hheld : (f (w.runners.get r)).connection = (w.runners.get r).connection) : Manages r w (w.changeRunner r f) where
  sound h := by
    rw [changeRunner_get_self]
    exact hsound h
  balances := .of_same [] (List.append_nil _).symm (by simp) rfl (by rw [held, changeRunner_get_self, hheld, held])

/-- A runner that holds no connection takes the next one. -/
theorem of_taken (hreleased : (w.runners.get r).released = false)
    (hnone : (w.runners.get r).connection = none) (hrunners : v.runners = w.runners)
    (htrace : v.trace = w.trace ++ [.engineConnect])
    (hnext : v.backend.connections.next = w.backend.connections.next + 1) :
    Manages r w (v.changeRunner r fun x => { x with connection := some w.backend.connections.next }) where
  sound h := by
    rw [changeRunner_get_self, hrunners]
    exact h.taking hreleased hnone _
  balances := by
    have hout : handedOut w v = [w.backend.connections.next] := by
      rw [handedOut, hnext, Nat.add_sub_cancel_left, List.range'_one]
    refine ⟨Nat.le_trans (Nat.le_succ _) (Nat.le_of_eq hnext.symm), [.engineConnect], htrace, ?_⟩
    show held w r ++ handedOut w v = _
    rw [hout, held, held, hnone, changeRunner_get_self]
    rfl

/-- A runner that lets go of its connection closes it, whether or not the backend does. -/
theorem of_detaches (h : Detaches r w v) : Manages r w v := by
  have hrunner := h.runner
  unfold Detaches at h
  cases hc : (w.runners.get r).connection with
  | none =>
    rw [hc] at h
    subst h
    exact of_changeRunner w (fun _ => Runner.sound_detached _) (by rw [hc]; rfl)
  | some c =>
    rw [hc] at h
    have hout : handedOut w v = [] := by
      have hnext : v.backend.connections.next = w.backend.connections.next := h.next
      rw [handedOut, hnext, Nat.sub_self, List.range'_zero]
    refine ⟨fun _ => hrunner ▸ Runner.sound_detached _, Nat.le_of_eq h.next.symm, [.close c], h.trace, ?_⟩
    rw [hout, held, held, hc, hrunner]
    rfl

instance : Works (Manages r) where
  logged w _ := of_notes [] (List.append_nil _).symm (by simp) rfl rfl
  idled w e he := of_event w (by cases e <;> first | rfl | cases he)
  noted w e _ he := of_event w (Event.closed?_of_not_isStock he)
  worked w _ _ hf := of_change w hf.connections

instance : Asides (Manages r) where
  locked w _ _ := of_notes [] (List.append_nil _).symm (by simp) rfl rfl
  asked w _ _ := of_notes [] (List.append_nil _).symm (by simp) rfl rfl

instance : Exports (Manages r) where
  imaged w e he := of_event w (by cases e <;> first | rfl | cases he)
  asked w _ := of_change w rfl
  stored w _ := of_notes [] (List.append_nil _).symm (by simp) rfl rfl

end Manages

/-- While runner `r` holds connection `c`, it goes on to hold it, and stays sound with its connections accounted
for. -/
def Holding (r c : Nat) (w v : World) : Prop :=
  (w.runners.get r).connection = some c → (v.runners.get r).connection = some c ∧ Manages r w v

namespace Holding

variable {c : Nat}

theorem of_manages (h : Manages r w v) (hrunners : v.runners = w.runners) : Holding r c w v :=
  fun hc => ⟨by rwa [hrunners], h⟩

instance : IsPreorder World (Holding r c) where
  refl w := .of_manages (refl_of (Manages r) w) rfl
  trans _ _ _ huv hvw hc := ⟨(hvw (huv hc).1).1, (huv hc).2.trans (hvw (huv hc).1).2⟩

instance : Works (Holding r c) where
  logged w logs := .of_manages (Reports.logged w logs) rfl
  idled w e he := .of_manages (Remarks.idled w e he) rfl
  noted w e he hs := .of_manages (Works.noted w e he hs) rfl
  worked w f hf hs := .of_manages (Works.worked w f hf hs) rfl

end Holding

/-- Between the worlds the backend is not reached: there are no more than log records, and notes of subscribers that
were told and of spans. -/
structure Unreached (w v : World) : Prop where
  backend : v.backend = w.backend
  trace : ∃ events, v.trace = w.trace ++ events ∧ ∀ e ∈ events, e.isReport = true

/-- While runner `r` is released, it goes on to be so, and the backend is not reached. -/
def Silent (r : Nat) (w v : World) : Prop :=
  (w.runners.get r).released = true → (v.runners.get r).released = true ∧ Unreached w v

namespace Silent

theorem of_reports (events : List Event) (hreports : ∀ e ∈ events, e.isReport = true)
    (htrace : v.trace = w.trace ++ events) (hbackend : v.backend = w.backend) (hrunners : v.runners = w.runners) :
    Silent r w v :=
  fun hr => ⟨by rwa [hrunners], hbackend, events, htrace, hreports⟩

instance : IsPreorder World (Silent r) where
  refl w := of_reports [] (by simp) (List.append_nil _).symm rfl rfl
  trans u v w huv hvw hr := by
    obtain ⟨hv, huv⟩ := huv hr
    obtain ⟨hw, hvw⟩ := hvw hv
    exact ⟨hw, hvw.backend.trans huv.backend, told_trans huv.trace hvw.trace⟩

instance : Asides (Silent r) where
  locked _ _ _ := of_reports [] (by simp) (List.append_nil _).symm rfl rfl
  asked _ _ _ := of_reports [] (by simp) (List.append_nil _).symm rfl rfl

instance : Reports (Silent r) where
  logged _ _ := of_reports [] (by simp) (List.append_nil _).symm rfl rfl
  reported _ e he := of_reports [e] (by simpa using he) rfl rfl rfl

end Silent

end World

namespace Session

variable {r c : Nat} {u v w : World}

theorem manages_changeRunner {f : Runner → Runner} (hsound : ∀ x, x.Sound → (f x).Sound)
    (hheld : ∀ x, (f x).connection = x.connection) : Moves (Manages r) (changeRunner r f) :=
  .modify fun w => .of_changeRunner w (hsound _) (hheld _)

theorem manages_mark (dirty : Bool) : Moves (Manages r) (changeRunner r fun x => { x with dirty }) :=
  manages_changeRunner (fun _ h => h.marked dirty) fun _ => rfl

theorem manages_ended : Moves (Manages r) (changeRunner r .ended) :=
  manages_changeRunner (fun _ h => h.ended) fun _ => rfl

/-- The end of a transaction at the backend is no end of the connection. -/
theorem manages_endingCall {e : Event} (he : e.closed? = none) (site : Site) (c : Nat) (f : Connection → Connection) :
    Moves (Manages r) (do emit e; fault site; changeConnection c f) :=
  moves_connectionCall (.modify fun w => .of_event w he) (moves_fault_of fun w _ => .of_change w rfl) c f

/-! ## Taking a connection and letting go of it -/

/-- How a connection is obtained: it is the next one, or there is none. -/
theorem obtainConnection_cases (r : Nat) (w : World) :
    (∃ f v, ends obtainConnection w = (.error f, v) ∧ Manages r w v) ∨
    (∃ v, ends obtainConnection w = (.ok w.backend.connections.next, v) ∧ v.runners = w.runners ∧
      v.trace = w.trace ++ [.engineConnect] ∧
      v.backend.connections.next = w.backend.connections.next + 1) := by
  have hnoted : World.fault? { w with trace := w.trace ++ [.engineConnect] } .connect = w.fault? .connect := rfl
  unfold obtainConnection
  rw [ends_bind_ok (ends_get w)]
  cases w.engine with
  | none =>
    obtain ⟨v, hv⟩ := ends_raise (α := Nat) (Failure.notConnected w.sourceName) w
    have hm := (moves_raise (R := Manages r) (α := Nat) (Failure.notConnected w.sourceName)).along w
    rw [hv] at hm
    exact .inl ⟨_, v, hv, hm⟩
  | some e =>
    dsimp only
    unfold connectEngine
    rw [ends_bind_ok (ends_emit ..), ends_bind, ends_fault, hnoted]
    cases w.fault? .connect with
    | some f => exact .inl ⟨f, _, rfl, .of_notes [.engineConnect] rfl (by simp [Event.closed?]) rfl rfl⟩
    | none => exact .inr ⟨_, rfl, rfl, rfl, rfl⟩

theorem manages_connect (r : Nat) : Moves (Manages r) (connect r) := by
  refine ⟨fun w => ?_⟩
  unfold connect
  rw [ends_bind_ok (ends_runner r w)]
  refine unless_elim (P := fun p => Manages r w p.2) (fun _ v hv => ?_) fun hreleased => ?_
  · exact (moves_raise (.problem .runnerReleased none)).of_ends hv
  dsimp only
  split
  case h_1 => exact refl_of (Manages r) w
  case h_2 hnone =>
    rcases obtainConnection_cases r w with ⟨f, v, hv, hm⟩ | ⟨v, hv, hrunners, htrace, hnext⟩
    · rw [ends_bind_error hv]
      exact hm
    · rw [ends_bind_ok hv]
      exact .of_taken (Bool.eq_false_iff.mpr hreleased) hnone hrunners htrace hnext

/-! ## The calls on a runner -/

theorem manages_closeConnection (r : Nat) : Moves (Manages r) (closeConnection r) :=
  ⟨fun w => Manages.of_detaches (detaches_closeConnection r w)⟩

theorem manages_query (r : Nat) (sql parameters : Value) : Moves (Manages r) (query r sql parameters) :=
  moves_query_of r sql parameters (manages_connect r) manages_mark

theorem manages_commitTransaction (r : Nat) : Moves (Manages r) (commitTransaction r) :=
  moves_commitTransaction_of r (fun c => manages_endingCall (e := .txCommit c) rfl ..) manages_ended
    (manages_mark false)

theorem manages_rollbackTransaction (r : Nat) : Moves (Manages r) (rollbackTransaction r) :=
  moves_rollbackTransaction_of r (fun c => manages_endingCall (e := .txRollback c) rfl ..) manages_ended
    (manages_mark false)

/-- Giving a runner back for good marks it as released before it lets go of its connection. -/
theorem manages_release (r : Nat) : Moves (Manages r) (release r) := by
  refine ⟨fun w => ?_⟩
  rcases release_cases r w with h | ⟨-, -, h⟩ | h
  · rw [h]
    exact refl_of (Manages r) w
  · rw [h]
    exact (moves_flush_of r (manages_mark false)).along w
  · have hreleased : Balances r w (w.changeRunner r fun x => { x with released := true }) :=
      .of_same [] (List.append_nil _).symm (by simp) rfl
        (by rw [World.held, World.held, World.changeRunner_get_self])
    refine ⟨fun _ => ?_, hreleased.trans (Manages.of_detaches h).balances⟩
    rw [h.runner]
    exact Runner.sound_detached _

/-- A transaction is begun on the connection that the runner holds. -/
theorem holding_begun (r c : Nat) : Moves (Holding r c) (changeRunner r (.begun c)) :=
  .modify fun w hc => ⟨by rw [World.changeRunner_get_self]; exact hc,
    .of_changeRunner w (fun h => h.begun hc) rfl⟩

theorem manages_startTransaction (r : Nat) (isolation : Value) : Moves (Manages r) (startTransaction r isolation) := by
  refine moves_startTransaction_of r isolation ?_
  refine (moves_runner r).bind fun _ => .guarded (moves_raise _) ((moves_broadcast ..).bind fun _ => ⟨fun w => ?_⟩)
  have htakes := takes_connect r w
  have hconnect := (manages_connect r).along w
  refine bind_elim (P := fun p => Manages r w p.2) (fun f v hv => ?_) fun c v hv => ?_
  all_goals rw [hv] at htakes hconnect
  · exact hconnect
  have hopens : Moves (Holding r c) (do
      if ← inTransaction c then commit c
      if isolation.truth then setIsolation c isolation
      begin c
      changeRunner r (.begun c)
      log .debug "quarry.driver.query_runner" "Transaction started" [← sourceField]) :=
    (moves_inTransaction c).bind fun _ => .guarded (moves_commit c) (.guarded (moves_setIsolation ..)
      ((moves_begin c).bind fun _ => (holding_begun r c).bind fun _ => moves_sourceField.bind fun _ => moves_log ..))
  exact hconnect.trans (hopens.along v htakes.2).2

/-! ## Calls on a released runner -/

/-- A call that turns a released runner down first. -/
theorem silent_unreleased {α : Type} (r : Nat) (k : Runner → PUnit → Session α) : Moves (Silent r) (do
    let x ← runner r
    if x.released then raise (.problem .runnerReleased none) >>= k x else k x ⟨⟩) := by
  refine ⟨fun w hr => ?_⟩
  obtain ⟨v, hv⟩ := ends_raise (α := PUnit) (.problem .runnerReleased none) w
  have hsilent := (moves_raise (R := Silent r) (α := PUnit) (.problem .runnerReleased none)).along w hr
  rw [ends_bind_ok (ends_runner r w), if_pos hr, ends_bind_error hv]
  rwa [hv] at hsilent

theorem silent_connect (r : Nat) : Moves (Silent r) (connect r) := silent_unreleased r _

theorem silent_query (r : Nat) (sql parameters : Value) : Moves (Silent r) (query r sql parameters) :=
  Moves.get.bind fun _ => moves_traced _ (silent_unreleased r _)

theorem error_of_connect_released (hr : (w.runners.get r).released = true) :
    ∃ f v, ends (connect r) w = (.error f, v) := by
  rcases hc : ends (connect r) w with ⟨f | c, v⟩
  · exact ⟨f, v, rfl⟩
  · rw [released_of_connect hc] at hr
    cases hr

/-- Of a start on a released runner no more happens than that subscribers are told. -/
theorem silent_startTransaction (r : Nat) (isolation : Value) : Moves (Silent r) (startTransaction r isolation) := by
  refine moves_startTransaction_of r isolation ?_
  refine (moves_runner r).bind fun _ => .guarded (moves_raise _) ((moves_broadcast ..).bind fun _ => ⟨fun w hr => ?_⟩)
  have hconnect := (silent_connect r).along w hr
  obtain ⟨f, v, hv⟩ := error_of_connect_released hr
  rw [ends_bind_error hv]
  rwa [hv] at hconnect

end Session

/-! ## Calls in a row -/

/-- What a caller asks of a runner. -/
inductive RunnerRequest where
  | connect
  | call (c : RunnerCall)

namespace RunnerRequest

/-- Makes the request of runner `r`. -/
def run (r : Nat) : RunnerRequest → Session Unit
  | .connect => do
    let _ ← Session.connect r
    pure ()
  | .call c => c.run r

/-- Does the request need a runner that is not released? -/
def needsRunner : RunnerRequest → Bool
  | .connect | .call (.query ..) | .call (.start _) => true
  | _ => false

/-- The world that requests leave, one made after the other, whether they fail or not. -/
def worldAfter (r : Nat) (w : World) (requests : List RunnerRequest) : World :=
  requests.foldl (fun w q => (ends (q.run r) w).2) w

/-- Each request keeps a runner sound, and its connections accounted for. -/
theorem manages (r : Nat) : (q : RunnerRequest) → Moves (Manages r) (q.run r)
  | .connect => (manages_connect r).bind fun _ => .pure _
  | .call (.query sql parameters) => (manages_query r sql parameters).bind fun _ => .pure _
  | .call (.start isolation) => manages_startTransaction r isolation
  | .call .commit => manages_commitTransaction r
  | .call .rollback => manages_rollbackTransaction r
  | .call .close => manages_closeConnection r
  | .call .release => manages_release r

theorem manages_worldAfter (r : Nat) (w : World) (requests : List RunnerRequest) :
    Manages r w (worldAfter r w requests) := by
  induction requests generalizing w with
  | nil => exact refl_of (Manages r) w
  | cons q rest ih => exact ((q.manages r).along w).trans (ih _)

/-- A request that needs a runner does not reach the backend when the runner is released. -/
theorem silent (r : Nat) : (q : RunnerRequest) → q.needsRunner = true → Moves (Silent r) (q.run r)
  | .connect, _ => (silent_connect r).bind fun _ => .pure _
  | .call (.query sql parameters), _ => (silent_query r sql parameters).bind fun _ => .pure _
  | .call (.start isolation), _ => silent_startTransaction r isolation
  | .call .commit, h | .call .rollback, h | .call .close, h | .call .release, h => nomatch h

end RunnerRequest

/-- Whatever is asked of a new runner, and whatever hooks and the backend turn down: afterwards the runner is sound,
the connections that it was handed are those that it has closed and the one that it holds, and once it is released
no request that needs it reaches the backend. -/
theorem runner_invariant (w : World) (mode : Value) (requests : List RunnerRequest) :
    let r := w.runners.next
    let u := (ends (addRunner mode) w).2
    let v := RunnerRequest.worldAfter r u requests
    (v.runners.get r).Sound ∧
    (∃ events, v.trace = u.trace ++ events ∧ handedOut u v = events.filterMap Event.closed? ++ v.held r) ∧
    ∀ q : RunnerRequest, q.needsRunner = true → (v.runners.get r).released = true →
      Unreached v (ends (q.run r) v).2 := by
  intro r u v
  have hnew : u.runners.get r = { mode } := by
    have hadd := Store.get_add w.runners { mode } r
    rwa [if_pos rfl] at hadd
  have hmanages : Manages r u v := RunnerRequest.manages_worldAfter r u requests
  refine ⟨hmanages.sound (hnew ▸ Runner.sound_new mode), ?_, fun q hq hr => ((q.silent r hq).along v hr).2⟩
  obtain ⟨events, htrace, haccount⟩ := hmanages.balances.account
  rw [World.held, hnew] at haccount
  exact ⟨events, htrace, haccount⟩

/-- A server that is connected and turns down the first commit. -/
def World.refusingOneCommit : World :=
  { dialect := .postgres
    engine := some 0
    backend := { faults := fun s => if s = .txCommit then [some (.fault "OperationalError" "lost")] else [] } }

/-- A runner that has started a transaction, failed to commit it and was given back is sound, and another start on it
does not reach the server. -/
theorem unreached_refusingOneCommit :
    let u := (ends (addRunner .null) .refusingOneCommit).2
    let v := RunnerRequest.worldAfter 0 u [.call (.start .null), .call .commit, .call .release]
    (v.runners.get 0).released = true ∧ (v.runners.get 0).Sound ∧
      Unreached v (ends ((RunnerRequest.call (.start .null)).run 0) v).2 := by
  intro u v
  obtain ⟨hsound, -, hunreached⟩ :=
    runner_invariant .refusingOneCommit .null [.call (.start .null), .call .commit, .call .release]
  have hreleased : (v.runners.get 0).released = true := rfl
  exact ⟨hreleased, hsound, hunreached (.call (.start .null)) rfl hreleased⟩

end SqlWeave
