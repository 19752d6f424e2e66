import SqlWeave.Proofs.Session.BlockTransaction
import SqlWeave.Proofs.Session.Obtaining

/-!
# Runners that are obtained are given back

A call that runs statements uses the runner that the caller has given, or obtains one for itself. A runner that was
given is never released. One that was obtained is released once, as the last call on it, however the call ends, and
on a server every connection that it was handed is closed by then.

A block inside a transaction may use any runner, its own included. `World.Uses` is the row of its steps, with the
connections that the runner in question is handed in them.
-/

namespace SqlWeave

open Session Execution World

variable {α : Type} {r : Nat} {u v w w₁ : World}

/-! ## The account of a runner -/

namespace World

/-- On the way from one world to the other, every connection that runner `r` held or was handed, which are those
that were `taken`, is closed, unless it still holds it. -/
structure KeepsTrack (r : Nat) (taken : List Nat) (w v : World) : Prop where
  dialect : v.dialect = w.dialect
  next_le : w.runners.next ≤ v.runners.next
  sound : (w.runners.get r).Sound → (v.runners.get r).Sound
  account : ∃ events, v.trace = w.trace ++ events ∧
    ∀ c, c ∈ w.held r ∨ c ∈ taken → c ∈ v.held r ∨ .close c ∈ events

theorem close_mem_of_closed {events : List Event} {c : Nat} (h : c ∈ events.filterMap Event.closed?) :
    .close c ∈ events := by
  obtain ⟨e, he, hc⟩ := List.mem_filterMap.mp h
  cases e <;> first | (cases hc; exact he) | cases hc

namespace KeepsTrack

variable {xs ys : List Nat}

protected theorem trans (h : KeepsTrack r xs u v) (h' : KeepsTrack r ys v w) : KeepsTrack r (xs ++ ys) u w where
  dialect := h'.dialect.trans h.dialect
  next_le := Nat.le_trans h.next_le h'.next_le
  sound := h'.sound ∘ h.sound
  account := by
    obtain ⟨events, hv, hxs⟩ := h.account
    obtain ⟨later, hw, hys⟩ := h'.account
    refine ⟨events ++ later, by rw [hw, hv, List.append_assoc], fun c hc => ?_⟩
    -- What the first part left with the runner, the second part accounts for.
    have hfirst : c ∈ v.held r ∨ .close c ∈ events ∨ c ∈ ys := by
      rcases hc with hc | hc
      · exact (hxs c (.inl hc)).imp_right .inl
      · rcases List.mem_append.mp hc with hc | hc
        · exact (hxs c (.inr hc)).imp_right .inl
        · exact .inr (.inr hc)
    rw [List.mem_append]
    rcases hfirst with hheld | hclosed | htaken
    · exact (hys c (.inl hheld)).imp_right .inr
    · exact .inr (.inl hclosed)
    · exact (hys c (.inr htaken)).imp_right .inr

/-- All that is handed out while runner `r` is used is handed to it. -/
theorem of_manages (h : Manages r w v) (ht : Touches r w v) : KeepsTrack r (handedOut w v) w v where
  dialect := ht.dialect
  next_le := Nat.le_of_eq ht.next.symm
  sound := h.sound
  account := by
    obtain ⟨events, htrace, hbalance⟩ := h.balances.account
    refine ⟨events, htrace, fun c hc => ?_⟩
    rw [← List.mem_append, hbalance, List.mem_append] at hc
    exact hc.symm.imp_right close_mem_of_closed

/-- What leaves the runner alone hands nothing to it. -/
theorem of_same (hdialect : v.dialect = w.dialect) (hnext : w.runners.next ≤ v.runners.next)
    (hrunner : v.runners.get r = w.runners.get r) (htrace : w.trace <+: v.trace) : KeepsTrack r [] w v where
  dialect := hdialect
  next_le := hnext
  sound hsound := by rwa [hrunner]
  account := by
    obtain ⟨events, hevents⟩ := htrace
    refine ⟨events, hevents.symm, fun c hc => .inl ?_⟩
    rw [held, hrunner]
    exact hc.resolve_right List.not_mem_nil

theorem of_touches {i : Nat} (h : Touches i w v) (hi : r ≠ i) : KeepsTrack r [] w v :=
  .of_same h.dialect (Nat.le_of_eq h.next.symm) (h.others r hi) h.trace

theorem of_untouched (h : Untouched w v) : KeepsTrack r [] w v := by
  obtain ⟨events, htrace, -⟩ := h.trace
  exact .of_same (congrArg World.dialect h.rest :) (Nat.le_of_eq (by rw [h.runners])) (by rw [h.runners])
    ⟨events, htrace.symm⟩

theorem of_adds {i : Nat} (h : Adds i w v) (hr : r < w.runners.next) : KeepsTrack r [] w v := by
  have hnext : w.runners.next ≤ v.runners.next := by
    rw [h.next, h.number]
    exact Nat.le_succ _
  have hi : r ≠ i := by
    rw [h.number]
    exact Nat.ne_of_lt hr
  exact .of_same h.dialect hnext (h.others r hi) ⟨[], (List.append_nil _).trans h.trace.symm⟩

end KeepsTrack

end World

/-! ## Blocks -/

/-- What the code of a block asks for: a runner, something of a runner, or that a statement is run. -/
inductive BlockCall where
  | obtain (mode : Value)
  | request (i : Nat) (q : RunnerRequest)
  | statement (c : StatementCall)

namespace BlockCall

def run : BlockCall → Session Unit
  | .obtain mode => do
    let _ ← createRunner mode
    pure ()
  | .request i q => q.run i
  | .statement c => c.run

/-- Is the call made on runner `r`? -/
def isOn (r : Nat) : BlockCall → Bool
  | .obtain _ => false
  | .request i _ => i = r
  | .statement c => c.given.handle? = some (.runner r)

/-- The connections that runner `r` is handed in the call: all that are handed out, when it is made on this runner. -/
def handed (q : BlockCall) (r : Nat) (w : World) : List Nat :=
  if q.isOn r then handedOut w (ends q.run w).2 else []

end BlockCall

namespace World

/-- Between the worlds something happened that has nothing to do with runners. -/
structure LeavesRunners (w v : World) : Prop where
  dialect : v.dialect = w.dialect
  runners : v.runners = w.runners
  trace : w.trace <+: v.trace

/-- The second world is reached by steps of a block: by its calls, and by what has nothing to do with runners.
Runner `r` is handed these connections in them. -/
inductive Uses (r : Nat) (w : World) : List Nat → World → Prop
  | start : Uses r w [] w
  | pause {taken : List Nat} {u v : World} (h : Uses r w taken u) (hv : LeavesRunners u v) : Uses r w taken v
  | call {taken : List Nat} {u : World} (h : Uses r w taken u) (q : BlockCall) :
    Uses r w (taken ++ q.handed r u) (ends q.run u).2

/-- The connections that runner `r` is handed while a block runs in a transaction of it, from the first world to the
second: at the start, in the block, and at the end. -/
inductive Handed (r : Nat) (isolation : Value) (block : Session α) (w v : World) : List Nat → Prop
  | unstarted {f : Failure} {u : World} (hstart : ends (startTransaction r isolation) w = (.error f, u)) :
    Handed r isolation block w v (handedOut w u ++ handedOut u v)
  | started {u : World} {taken : List Nat} (hstart : ends (startTransaction r isolation) w = (.ok ⟨⟩, u))
      (hblock : u.Uses r taken (ends block u).2) :
    Handed r isolation block w v (handedOut w u ++ taken ++ handedOut (ends block u).2 v)

/-- Runner `r` is released, and holds no connection; those that were `taken` were closed on the way. -/
structure GivenBack (r : Nat) (taken : List Nat) (w v : World) : Prop where
  released : (v.runners.get r).released = true
  held : v.held r = []
  closed : ∃ events, v.trace = w.trace ++ events ∧ ∀ c ∈ taken, .close c ∈ events

theorem Returns.touches (h : Returns r w v) : Touches r w v := by
  obtain ⟨u, hattends, -, hlogged⟩ := h
  have hreleased : Touches r u (ends (release r) u).2 := (touches_release r).along u
  obtain ⟨logs, rfl⟩ : ∃ logs, v = { (ends (release r) u).2 with logs } := ⟨_, hlogged⟩
  refine trans_of (Touches r) (trans_of (Touches r) hattends.toTouches hreleased) ?_
  exact ⟨rfl, rfl, fun _ _ => rfl, List.prefix_rfl⟩

end World

/-- In whatever a block does, its runner's account is kept. -/
theorem BlockCall.keepsTrack (hw : w.dialect.isNetwork = true) (hr : r < w.runners.next) (q : BlockCall) :
    KeepsTrack r (q.handed r w) w (ends q.run w).2 := by
  have hon (h : q.isOn r = true) : q.handed r w = handedOut w (ends q.run w).2 := if_pos h
  have hoff (h : q.isOn r = false) : q.handed r w = [] := if_neg (Bool.eq_false_iff.mp h)
  cases q with
  | obtain mode =>
    rw [hoff rfl]
    rcases createRunner_server mode hw with ⟨f, v, hv, he⟩ | ⟨i, v, hv, he⟩
    · show KeepsTrack r [] w (ends (createRunner mode >>= fun _ => pure ()) w).2
      rw [ends_bind_error he]
      exact .of_untouched hv
    · show KeepsTrack r [] w (ends (createRunner mode >>= fun _ => pure ()) w).2
      rw [ends_bind_ok he]
      exact .of_adds hv hr
  | request i q =>
    by_cases hi : i = r
    · rw [hon (decide_eq_true hi)]
      subst hi
      exact .of_manages ((q.manages i).along w) ((q.touches i).along w)
    · rw [hoff (decide_eq_false hi)]
      exact .of_touches ((q.touches i).along w) (Ne.symm hi)
  | statement c =>
    by_cases hgiven : ∃ i, c.given.handle? = some (.runner i)
    · obtain ⟨i, hgiven⟩ := hgiven
      have htouches : Touches i w (ends c.run w).2 := (((operates_attends i).statementCall c hgiven).along w).toTouches
      by_cases hi : i = r
      · subst hi
        rw [hon (decide_eq_true hgiven)]
        exact .of_manages (((operates_manages i).statementCall c hgiven).along w) htouches
      · rw [hoff (decide_eq_false (by simpa [hgiven] using hi))]
        exact .of_touches htouches (Ne.symm hi)
    · have hnone (i : Nat) : c.given.handle? ≠ some (.runner i) := fun h => hgiven ⟨i, h⟩
      rw [hoff (decide_eq_false (hnone r))]
      show KeepsTrack r [] w (ends c.run w).2
      rcases c.obtains hw hnone with ⟨f, v, hv, he⟩ | ⟨i, w₁, made, hcreate, -, -, hreturns⟩
      · rw [he]
        exact .of_untouched hv
      · have hadds : Adds i w w₁ := adds_of_createRunner hw hcreate
        have hi : r ≠ i := by
          rw [hadds.number]
          exact Nat.ne_of_lt hr
        exact (KeepsTrack.of_adds hadds hr).trans (.of_touches hreturns.touches hi)

namespace World

/-- In all steps of a block, its runner's account is kept. -/
theorem Uses.keepsTrack {taken : List Nat} (hw : w.dialect.isNetwork = true) (hr : r < w.runners.next)
    (h : w.Uses r taken v) : KeepsTrack r taken w v := by
  induction h with
  | start => exact .of_same rfl (Nat.le_refl _) rfl List.prefix_rfl
  | @pause taken u v _ hv ih =>
    have hpause : KeepsTrack r [] u v :=
      .of_same hv.dialect (Nat.le_of_eq (by rw [hv.runners])) (by rw [hv.runners]) hv.trace
    rw [← List.append_nil taken]
    exact ih.trans hpause
  | call _ q ih => exact ih.trans (q.keepsTrack (by rw [ih.dialect, hw]) (Nat.lt_of_lt_of_le hr ih.next_le))

/-- A runner whose account was kept is used once more, and given back. -/
theorem GivenBack.of_release {taken : List Nat} (hw : w.dialect.isNetwork = true) (hsound : (w.runners.get r).Sound)
    (h : KeepsTrack r taken w u) (hmanages : Manages r u v) (htouches : Touches r u v) :
    GivenBack r (taken ++ handedOut u (ends (release r) v).2) w (ends (release r) v).2 := by
  have hv : v.dialect.isNetwork = true := by rw [htouches.dialect, h.dialect, hw]
  obtain ⟨hreleased, hheld⟩ := released_release hv (hmanages.sound (h.sound hsound))
  have hlast : KeepsTrack r (handedOut u (ends (release r) v).2) u (ends (release r) v).2 :=
    .of_manages (hmanages.trans ((manages_release r).along v))
      (trans_of (Touches r) htouches ((touches_release r).along v))
  obtain ⟨events, htrace, hclosed⟩ := (h.trans hlast).account
  refine ⟨hreleased, hheld, events, htrace, fun c hc => (hclosed c (.inr hc)).resolve_left ?_⟩
  rw [hheld]
  exact List.not_mem_nil

theorem Returns.givenBack (hw : w.dialect.isNetwork = true) (hsound : (w.runners.get r).Sound) (h : Returns r w v) :
    GivenBack r (handedOut w v) w v := by
  obtain ⟨u, hattends, hmanages, hlogged⟩ := h
  have hnothing : KeepsTrack r [] w w := .of_same rfl (Nat.le_refl _) rfl List.prefix_rfl
  have hback := GivenBack.of_release hw hsound hnothing hmanages hattends.toTouches
  obtain ⟨logs, rfl⟩ : ∃ logs, v = { (ends (release r) u).2 with logs } := ⟨_, hlogged⟩
  exact ⟨hback.released, hback.held, hback.closed⟩

/-- To make a runner is not told, and reaches no backend. -/
theorem GivenBack.of_adds {taken : List Nat} (h : Adds r w w₁) (hback : GivenBack r taken w₁ v) :
    GivenBack r taken w v := by
  obtain ⟨events, htrace, hclosed⟩ := hback.closed
  exact ⟨hback.released, hback.held, events, by rw [htrace, h.trace], hclosed⟩

end World

namespace Session

theorem Operates.afterBlock {R : World → World → Prop} [IsPreorder World R] (h : Operates R r) (isolation : Value)
    (result : Result α) : Moves R (afterBlock r isolation result) := by
  have hactive : Moves R (runnerOps r isolation).isActive := (moves_runner r).bind fun _ => .pure _
  cases result with
  | ok a => exact hactive.bind fun _ => .guarded h.commit (.pure a)
  | error f => exact hactive.bind fun _ => .guarded h.rollback (.throw f)

/-- The runner of a transaction is given back after the block, with every connection that it was handed closed. -/
theorem givenBack_transaction (isolation : Value) (block : Session α) {taken : List Nat}
    (hw : w.dialect.isNetwork = true) (hr : r < w.runners.next) (hsound : (w.runners.get r).Sound)
    (h : w.Handed r isolation block (ends (Execution.transaction (runnerOps r isolation) block) w).2 taken) :
    GivenBack r taken w (ends (Execution.transaction (runnerOps r isolation) block) w).2 := by
  have hends : (ends (Execution.transaction (runnerOps r isolation) block) w).2 =
      (ends (release r) (ends (runBlock (runnerOps r isolation) block) w).2).2 := world_andFinally ..
  rw [hends, runBlock_eq] at h ⊢
  have hmanages := (manages_startTransaction r isolation).along w
  have htouches := (((operates_attends r).start isolation).along w).toTouches
  cases h with
  | @unstarted f u hstart =>
    rw [hstart] at hmanages htouches
    rw [ends_bind_error hstart]
    have hopened : KeepsTrack r (handedOut w u) w u := .of_manages hmanages htouches
    exact .of_release hw hsound hopened (refl_of (Manages r) u) (refl_of (Touches r) u)
  | @started u taken hstart hblock =>
    rw [hstart] at hmanages htouches
    rw [ends_bind_ok hstart, ends_bind_ok (ends_execution_attempt block u)]
    have hopened : KeepsTrack r (handedOut w u) w u := .of_manages hmanages htouches
    have hused : KeepsTrack r taken u (ends block u).2 :=
      hblock.keepsTrack (by rw [hopened.dialect, hw]) (Nat.lt_of_lt_of_le hr hopened.next_le)
    exact .of_release hw hsound (hopened.trans hused) (((operates_manages r).afterBlock isolation _).along _)
      (((operates_attends r).afterBlock isolation _).along _).toTouches

end Session

/-! ## What becomes of a runner -/

/-- What a call that runs statements does with a runner. It is refused, and asks nothing of any runner; or it uses the
runner that it was given, and does not release it; or it obtains one, and releases it once, as the last call on it. -/
inductive StatementCall.Settles (c : StatementCall) (w : World) : Prop
  | refused (h : Refuses c.run w)
  | borrowed {r : Nat} {made : List Made} (hgiven : c.given.handle? = some (.runner r)) (hmade : c.Enters w r w made)
      (hkept : .release ∉ made.map Prod.fst) (hv : Attends r w (ends c.run w).2)
  | obtained {r : Nat} {w₁ : World} {made : List Made} (hgiven : ∀ i, c.given.handle? ≠ some (.runner i))
      (hnew : ends createRunner w = (.ok r, w₁)) (hmade : c.Enters w r w₁ made) (honce : OnlyLast .release made)
      (hone : (ends c.run w).2.runners.next = w.runners.next + 1)
      (hv : GivenBack r (handedOut w (ends c.run w).2) w (ends c.run w).2)

/-- What a block inside a transaction does with the runner of it. The runner is obtained, and released once, as the
last call on it beside those of the block. -/
inductive Session.BlockSettles (isolation : Value) (block : Nat → Session α) (w : World) : Prop
  | refused (h : Refuses (transaction isolation block) w)
  | obtained {r : Nat} {w₁ : World} {made : List Made} (hnew : ends createRunner w = (.ok r, w₁))
      (hmade : Journaled.outcome (Execution.transaction (runnerOps r isolation).journaled
        (Journaled.unnoted (block r))) w₁ [] =
          ((ends (transaction isolation block) w).1, (ends (transaction isolation block) w).2, made))
      (honce : OnlyLast .release made)
      (hv : ∀ taken, w₁.Handed r isolation (block r) (ends (transaction isolation block) w).2 taken →
        GivenBack r taken w (ends (transaction isolation block) w).2)

theorem StatementCall.settles (hw : w.dialect.isNetwork = true) (c : StatementCall) : c.Settles w := by
  by_cases hgiven : ∃ r, c.given.handle? = some (.runner r)
  · obtain ⟨r, hr⟩ := hgiven
    rcases c.borrows hw hr with hrefuses | ⟨made, hmade, hkept⟩
    · exact .refused hrefuses
    · exact .borrowed hr hmade hkept (((operates_attends r).statementCall c hr).along w)
  · have hnone (i : Nat) : c.given.handle? ≠ some (.runner i) := fun h => hgiven ⟨i, h⟩
    rcases c.obtains hw hnone with hrefuses | ⟨r, w₁, made, hcreate, hmade, honce, hreturns⟩
    · exact .refused hrefuses
    · have hadds : Adds r w w₁ := adds_of_createRunner hw hcreate
      have hback := hreturns.givenBack (by rw [hadds.dialect, hw]) hadds.sound
      have hone : (ends c.run w).2.runners.next = w.runners.next + 1 := by
        rw [hreturns.touches.next, hadds.next, hadds.number]
      -- The connections that were handed out are counted from where the call began.
      have hsame : handedOut w₁ (ends c.run w).2 = handedOut w (ends c.run w).2 := by
        unfold handedOut
        rw [hadds.backend]
      rw [hsame] at hback
      exact .obtained hnone hcreate hmade honce hone (.of_adds hadds hback)

theorem Session.blockSettles (hw : w.dialect.isNetwork = true) (isolation : Value) (block : Nat → Session α) :
    BlockSettles isolation block w := by
  rcases createRunner_server usualMode hw with hrefuses | ⟨r, w₁, hadds, hcreate⟩
  · exact .refused (hrefuses.bind _)
  · have hrun : ends (transaction isolation block) w =
        ends (Execution.transaction (runnerOps r isolation) (block r)) w₁ := ends_bind_ok hcreate
    obtain ⟨made, hmade, honce⟩ := (avoids_runBlock (runnerOps r isolation) (block r)).andFinally (release r) w₁
    refine .obtained hcreate ?_ honce fun taken htaken => ?_
    · rw [hrun]
      exact hmade []
    · rw [hrun] at htaken ⊢
      have hr : r < w₁.runners.next := by
        rw [hadds.next]
        exact Nat.lt_succ_self r
      have hback := givenBack_transaction isolation (block r) (by rw [hadds.dialect, hw]) hr hadds.sound htaken
      exact .of_adds hadds hback

/-- **Runners are given back.** On a server, a call that runs statements does not release the runner that it was
given; and where it obtains one, this is released once, as the last call on it, and every connection that was handed
out in the call is closed. The same holds of the runner of a block inside a transaction, whatever the block does with
it. -/
theorem Session.obtained_runner_given_back (w : World) (hw : w.dialect.isNetwork = true) :
    (∀ c : StatementCall, c.Settles w) ∧
    ∀ (α : Type) (isolation : Value) (block : Nat → Session α), BlockSettles isolation block w :=
  ⟨StatementCall.settles hw, fun _ => blockSettles hw⟩

/-- A block that sends one statement on its runner. -/
def Session.sendingBlock (r : Nat) : Session Unit := (RunnerRequest.call (.query (.text "SELECT 1") .null)).run r

/-- The statement in the block fails, and so does the close of the connection, which was called all the same. -/
theorem Session.lost_connection_given_back :
    World.losingConnection.dialect.isNetwork = true ∧
    (ends (transaction .null sendingBlock) .losingConnection).1 = .error (.fault "RuntimeError" "connection lost") ∧
    GivenBack 0 [1] .losingConnection (ends (transaction .null sendingBlock) .losingConnection).2 := by
  refine ⟨rfl, rfl, ?_⟩
  cases (obtained_runner_given_back .losingConnection rfl).2 Unit .null sendingBlock with
  | refused hrefuses =>
    obtain ⟨f, v, hv, hends⟩ := hrefuses
    have hnew : (ends (transaction .null sendingBlock) .losingConnection).2.runners.next = 1 := rfl
    rw [hends, hv.runners] at hnew
    cases hnew
  | obtained hnew hmade honce hv =>
    cases hnew
    let w₁ := (ends createRunner .losingConnection).2
    let u := (ends (startTransaction 0 .null) w₁).2
    have hsent : u.Uses 0 ([] ++ []) (ends (sendingBlock 0) u).2 :=
      .call .start (.request 0 (.call (.query (.text "SELECT 1") .null)))
    exact hv [1] (.started rfl hsent)

end SqlWeave
