import SqlWeave.Proofs.Session.StatementTransaction

/-!
# What the backend is told of the end of a transaction

Of all calls on a runner two tell the backend to end a transaction: its commit and its rollback. The other
calls are quiet. A runner forgets its transaction when the backend has committed it, whatever fails
afterwards, and so no rollback of it is told to the backend after that.
-/

namespace SqlWeave

open Session Execution

namespace World

/-- What the backend is told of the ends of transactions on the way from one world to the other, in order. -/
def Tells (told : List Event) (w v : World) : Prop :=
  ∃ events, v.trace = w.trace ++ events ∧ events.filter Event.endsTransaction = told

/-- On the way from one world to the other the backend is told of no end of a transaction, and what waits at
the next commit is kept. -/
structure Quiet (w v : World) : Prop where
  tells : Tells [] w v
  waiting : v.backend.faults .txCommit = w.backend.faults .txCommit

variable {xs ys : List Event} {u v w : World}

theorem Tells.trans (h : Tells xs u v) (h' : Tells ys v w) : Tells (xs ++ ys) u w := by
  obtain ⟨events, he, rfl⟩ := h
  obtain ⟨events', he', rfl⟩ := h'
  exact ⟨events ++ events', by rw [he', he, List.append_assoc], List.filter_append ..⟩

theorem Tells.of_trace_eq (h : v.trace = w.trace) : Tells [] w v := ⟨[], by rw [h, List.append_nil], rfl⟩

instance : IsPreorder World (Tells []) where
  refl _ := .of_trace_eq rfl
  trans _ _ _ huv hvw := huv.trans hvw

namespace Quiet

theorem of_eq (h : v.trace = w.trace) (hb : v.backend = w.backend) : Quiet w v :=
  ⟨.of_trace_eq h, by rw [hb]⟩

theorem fault? (h : Quiet w v) : v.fault? .txCommit = w.fault? .txCommit := by
  rw [World.fault?, World.fault?, h.waiting]

theorem tells_trans (h : Quiet u v) (h' : Tells xs v w) : Tells xs u w := h.tells.trans h'

theorem trans_tells (h' : Tells xs u v) (h : Quiet v w) : Tells xs u w := by
  have := h'.trans h.tells
  rwa [List.append_nil] at this

instance : IsPreorder World Quiet where
  refl _ := of_eq rfl rfl
  trans _ _ _ huv hvw := ⟨huv.tells.trans hvw.tells, hvw.waiting.trans huv.waiting⟩

instance : Turns Quiet where
  logged _ _ := of_eq rfl rfl
  emitted w e he := ⟨⟨[e], rfl, List.filter_cons_of_neg (by rw [he]; exact Bool.false_ne_true)⟩, rfl⟩
  changed _ _ hf := ⟨.of_trace_eq rfl, hf⟩
  ran _ _ _ _ := of_eq rfl rfl
  stored _ _ := of_eq rfl rfl
  turned _ _ _ _ := of_eq rfl rfl

instance : Asides Quiet where
  locked _ _ _ := of_eq rfl rfl
  asked _ _ _ := of_eq rfl rfl

instance : Serves Quiet where
  served _ _ _ := of_eq rfl rfl
  connected _ _ := ⟨.of_trace_eq rfl, rfl⟩

end Quiet

end World

namespace Session

open World (Tells Quiet Relocked)

variable {α β : Type} {r : Nat} {w v : World}

/-! ## Commit and rollback -/

theorem tells_bind {told : List Event} {s : Session α} {k : α → Session β} (h : Tells told w (ends s w).2)
    (hk : ∀ a, Moves Quiet (k a)) : Tells told w (ends (s >>= k) w).2 := by
  rw [ends_bind]
  rcases hs : ends s w with ⟨f | a, v⟩
  · rwa [hs] at h
  · rw [hs] at h
    exact ((hk a).along v).trans_tells h

/-- A call on a connection that ends its transaction tells the backend so, and nothing else. -/
theorem tells_endingCall {e : Event} (he : e.endsTransaction = true) (site : Site) (c : Nat)
    (f : Connection → Connection) (w : World) :
    Tells [e] w (ends (do emit e; fault site; changeConnection c f) w).2 := by
  have hrest : Moves (Tells []) (fault site >>= fun _ => changeConnection c f) :=
    (moves_fault_of fun _ _ => .of_trace_eq rfl).bind fun _ => .modify fun _ => .of_trace_eq rfl
  have hemit : Tells [e] w (ends (emit e) w).2 := ⟨[e], rfl, List.filter_cons_of_pos he⟩
  rw [ends_bind_ok (ends_emit ..)]
  have := hemit.trans (hrest.along _)
  rwa [List.append_nil] at this

/-- A call on a runner that ends its transaction, unless the hook before it turns that down: the backend is
told so once, or the call is quiet. -/
def Ends (e : Nat → Event) (hook : Hook) (r : Nat) (w v : World) : Prop :=
  Quiet w v ∨ ∃ c, w.activeAt r = true ∧ (w.runners.get r).transaction = some c ∧ w.refusal? hook = none ∧
    Tells [e c] w v

theorem Ends.trans_quiet {e : Nat → Event} {hook : Hook} {u : World} (h : Ends e hook r w v) (hq : Quiet v u) :
    Ends e hook r w u := by
  rcases h with h | ⟨c, ha, ht, hr, h⟩
  · exact .inl (trans_of Quiet h hq)
  · exact .inr ⟨c, ha, ht, hr, hq.trans_tells h⟩

theorem Ends.of_relocked {e : Nat → Event} {hook : Hook} {u : World} (h : Ends e hook r u v)
    (hu : Relocked w u) : Ends e hook r w v := by
  have hquiet : Quiet w u := by
    rw [hu]
    exact .of_eq rfl rfl
  rcases h with h | ⟨c, ha, ht, hr, h⟩
  · exact .inl (trans_of Quiet hquiet h)
  · rw [World.activeAt, hu.runners] at ha
    rw [hu.runners] at ht
    exact .inr ⟨c, ha, ht, (hu.hook hook).refusal? ▸ hr, hquiet.tells_trans h⟩

theorem Ends.bind {e : Nat → Event} {hook : Hook} {s : Session α} {k : α → Session β}
    (h : Ends e hook r w (ends s w).2) (hk : ∀ a, Moves Quiet (k a)) : Ends e hook r w (ends (s >>= k) w).2 := by
  rw [ends_bind]
  rcases hs : ends s w with ⟨f | a, v⟩
  · rwa [hs] at h
  · rw [hs] at h
    exact h.trans_quiet ((hk a).along v)

theorem ends_endingCall {e : Nat → Event} {hook : Hook} {s : Nat → Session α}
    (hs : ∀ c u, Tells [e c] u (ends (s c) u).2) (r : Nat) (w : World) :
    Ends e hook r w (ends (activeTransaction r >>= fun c => broadcast hook >>= fun _ => s c) w).2 := by
  have hactive : Quiet w (ends (activeTransaction r) w).2 := (moves_activeTransaction r).along w
  rcases ha : ends (activeTransaction r) w with ⟨f | c, v⟩
  · rw [ha] at hactive
    rw [ends_bind_error ha]
    exact .inl hactive
  obtain ⟨hin, ht, rfl⟩ := transaction_of_activeTransaction ha
  rw [ends_bind_ok ha]
  have hb := result_broadcast hook v
  have htold : Quiet v (ends (broadcast hook) v).2 := (moves_broadcast ..).along v
  rcases hbroadcast : ends (broadcast hook) v with ⟨f | a, u⟩
  · rw [hbroadcast] at htold
    rw [ends_bind_error hbroadcast]
    exact .inl htold
  · rw [hbroadcast] at htold hb
    rw [ends_bind_ok hbroadcast]
    refine .inr ⟨c, hin, ht, ?_, htold.tells_trans (hs c u)⟩
    cases hr : v.refusal? hook with
    | none => rfl
    | some f =>
      rw [hr] at hb
      cases hb

theorem tells_commitOnly (r : Nat) (w : World) : Ends .txCommit .beforeCommit r w (ends (commitOnly r) w).2 := by
  refine Ends.bind ?_ fun _ => moves_broadcast ..
  refine ends_endingCall (fun c u => tells_bind (tells_endingCall rfl ..) fun _ => ?_) r w
  exact (moves_serve ..).bind fun _ => moves_sourceField.bind fun _ => moves_log ..

/-- A commit tells the backend so at most once. After that the transaction is over, unless the backend has
turned the commit down. -/
theorem tells_commitTransaction (r : Nat) (w : World) :
    Quiet w (ends (commitTransaction r) w).2 ∨ ∃ c, Tells [.txCommit c] w (ends (commitTransaction r) w).2 ∧
      ((ends (commitTransaction r) w).2.activeAt r = false ∨
        w.fault? .txCommit ≠ none ∧ ((ends (commitTransaction r) w).2.runners.get r).transaction = some c) := by
  have hends : Ends .txCommit .beforeCommit r w (ends (commitTransaction r) w).2 := by
    have hunlock : Moves Quiet (do dropLock r; flush r) := (moves_dropLock r).bind fun _ => moves_flush r
    rw [ends_commitTransaction]
    split
    · rw [ends_holding]
      refine Ends.trans_quiet ?_ (moves_unlocked _ r)
      exact .of_relocked ((tells_commitOnly r _).bind fun _ => hunlock) (World.relocked_locked w r)
    · exact (tells_commitOnly r w).bind fun _ => moves_dropLock r
  rcases hends with hquiet | ⟨c, ha, ht, hr, htells⟩
  · exact .inl hquiet
  refine .inr ⟨c, htells, ?_⟩
  rcases commitTransaction_cases r w with ⟨-, hover⟩ | ⟨hl, f, v, hv, he⟩
  · exact .inl hover
  · refine .inr ⟨fun hf => hl ⟨⟨ha, by simp [ht]⟩, hr, hf⟩, ?_⟩
    rw [he]
    exact (hv.transaction r).trans ht

theorem tells_rollbackAndUnlock (r : Nat) (w : World) :
    Ends .txRollback .beforeRollback r w (ends (rollbackAndUnlock r) w).2 := by
  have hends : Ends .txRollback .beforeRollback r w (ends (rollbackOnly r) w).2 := by
    refine Ends.bind ?_ fun _ => moves_broadcast ..
    refine ends_endingCall (fun c u => tells_bind ?_ fun _ => ?_) r w
    · rw [ends_andFinally, ends_changeRunner]
      exact ((moves_serve (R := Quiet) r _).along _).trans_tells (tells_endingCall rfl ..)
    · exact moves_sourceField.bind fun _ => moves_log ..
  rw [ends_rollbackAndUnlock]
  split
  · exact hends.trans_quiet (moves_unlocked _ r)
  · exact hends

/-- A rollback tells the backend so at most once, and only of a transaction that is not over. -/
theorem tells_rollbackTransaction (r : Nat) (w : World) :
    Ends .txRollback .beforeRollback r w (ends (rollbackTransaction r) w).2 := by
  rw [ends_rollbackTransaction]
  split
  · rw [ends_holding, ends_andFinally, ends_changeRunner]
    have hclean : Quiet _ (ends (changeRunner r fun x => { x with dirty := false }) _).2 :=
      (moves_serve r _).along (ends (rollbackAndUnlock r) (w.locked r)).2
    refine Ends.trans_quiet ?_ (trans_of Quiet hclean (moves_unlocked _ r))
    exact (tells_rollbackAndUnlock r _).of_relocked (World.relocked_locked w r)
  · exact tells_rollbackAndUnlock r w

/-! ## A statement -/

/-- What the backend is told of the ends of one transaction: at most that it commits and that it rolls back,
and both only when a commit can be turned down. -/
inductive OneEnd (refused : Prop) : List Event → Prop
  | none : OneEnd refused []
  | commit (c : Nat) : OneEnd refused [.txCommit c]
  | rollback (c : Nat) : OneEnd refused [.txRollback c]
  | both (c : Nat) (h : refused) : OneEnd refused [.txCommit c, .txRollback c]

section
variable {steps : Steps (ExceptT Failure (StateM World)) α β} {note : Failure → Session Unit}

theorem tells_body (hs : Moves Quiet steps.run) (w : World) :
    Quiet w (ends (body (runnerOps r) steps true) w).2 ∨
    ∃ c, Tells [.txCommit c] w (ends (body (runnerOps r) steps true) w).2 ∧
      ((ends (body (runnerOps r) steps true) w).2.activeAt r = false ∨ w.fault? .txCommit ≠ none ∧
        ((ends (body (runnerOps r) steps true) w).2.runners.get r).transaction = some c) := by
  have hquiet := hs.along w
  unfold body
  rcases h : ends steps.run w with ⟨f | b, v⟩
  · rw [h] at hquiet
    rw [ends_bind_error h]
    exact .inl hquiet
  rw [h] at hquiet
  rw [ends_bind_ok h, if_pos rfl]
  have hworld : (ends ((runnerOps r).commit >>= fun _ => pure b) v).2 = (ends (commitTransaction r) v).2 := by
    rw [ends_bind]
    rcases hc : ends (runnerOps r).commit v with ⟨f | a, u⟩ <;> exact (congrArg Prod.snd hc).symm
  rw [hworld]
  rcases tells_commitTransaction r v with hc | ⟨c, htells, hover⟩
  · exact .inl (trans_of Quiet hquiet hc)
  · rw [hquiet.fault?] at hover
    exact .inr ⟨c, hquiet.tells_trans htells, hover⟩

theorem tells_tryRollback (hn : ∀ f, Moves Quiet (note f)) (w : World) :
    Ends .txRollback .beforeRollback r w (ends (tryRollback (runnerOps r) note) w).2 := by
  unfold tryRollback
  rw [ends_bind_ok (ends_execution_attempt ..)]
  refine (tells_rollbackTransaction r w).trans_quiet ?_
  split
  · exact refl_of Quiet _
  · exact (hn _).along _

/-- Of a transaction that was started for the steps, the backend is told at most one end that it has not
turned down. -/
theorem tells_bodyOrRollback (hs : Moves Quiet steps.run) (hn : ∀ f, Moves Quiet (note f)) (w : World) :
    ∃ told, OneEnd (w.fault? .txCommit ≠ none) told ∧
      Tells told w (ends (bodyOrRollback (runnerOps r) note steps true) w).2 := by
  have hundo (f : Failure) (v : World) : Ends .txRollback .beforeRollback r v
      (ends (tryRollback (runnerOps r) note >>= fun _ => throw f : Session β) v).2 :=
    (tells_tryRollback hn v).bind fun _ => .throw f
  rw [ends_bodyOrRollback]
  have hbody := tells_body (r := r) hs w
  rcases h : ends (body (runnerOps r) steps true) w with ⟨f | b, v⟩
  all_goals rw [h] at hbody
  · rcases hbody with hquiet | ⟨c, htells, hover⟩
    · rcases hundo f v with hq | ⟨c, -, -, -, ht⟩
      · exact ⟨[], .none, (trans_of Quiet hquiet hq).tells⟩
      · exact ⟨[.txRollback c], .rollback c, hquiet.tells_trans ht⟩
    · rcases hundo f v with hq | ⟨d, ha, hd, -, ht⟩
      · exact ⟨[.txCommit c], .commit c, hq.trans_tells htells⟩
      · -- The transaction is still there, so the backend has turned its commit down.
        rcases hover with hover | ⟨hf, hc⟩
        · exact absurd (ha.symm.trans hover) (by decide)
        · obtain rfl : d = c := Option.some.inj (hd.symm.trans hc)
          exact ⟨[.txCommit d, .txRollback d], .both d hf, htells.trans ht⟩
  · rcases hbody with hquiet | ⟨c, htells, -⟩
    · exact ⟨[], .none, hquiet.tells⟩
    · exact ⟨[.txCommit c], .commit c, htells⟩

/-- What the backend is told by a statement; nothing, when no transaction is started for it. -/
theorem tells_makeSteps (hs : Moves Quiet steps.run) (hn : ∀ f, Moves Quiet (note f)) (wanted : Bool) (w : World) :
    ∃ told, OneEnd (w.fault? .txCommit ≠ none) told ∧ ((wanted && !w.activeAt r) = false → told = []) ∧
      Tells told w (ends (makeSteps (runnerOps r) wanted note steps) w).2 := by
  have hplain (v : World) : Quiet v (ends (bodyOrRollback (runnerOps r) note steps false) v).2 :=
    (moves_bodyOrRollback hs).along v
  have hact : ends (runnerOps r).isActive w = (.ok (w.activeAt r), w) := rfl
  unfold makeSteps startIfWanted
  cases wanted with
  | false => exact ⟨[], .none, fun _ => rfl, (hplain w).tells⟩
  | true =>
    rw [if_pos rfl, bind_assoc, ends_bind_ok hact]
    cases ha : w.activeAt r with
    | true => exact ⟨[], .none, fun _ => rfl, (hplain w).tells⟩
    | false =>
      rw [if_neg Bool.false_ne_true, bind_assoc]
      show ∃ told, _ ∧ _ ∧ Tells told w (ends (startTransaction r >>= _) w).2
      have hstart : Quiet w (ends (startTransaction r) w).2 := (turns_startTransaction r .null).along w
      rcases h : ends (startTransaction r) w with ⟨f | a, v⟩
      all_goals rw [h] at hstart
      · rw [ends_bind_error h]
        exact ⟨[], .none, fun _ => rfl, hstart.tells⟩
      · obtain ⟨told, hone, htells⟩ := tells_bodyOrRollback (r := r) hs hn v
        rw [hstart.fault?] at hone
        rw [ends_bind_ok h, ends_bind_ok (ends_pure ..)]
        exact ⟨told, hone, by simp, hstart.tells_trans htells⟩

theorem tells_statement (hs : Moves Quiet steps.run) (hn : ∀ f, Moves Quiet (note f)) (wanted obtained : Bool)
    (w : World) : ∃ told, OneEnd (w.fault? .txCommit ≠ none) told ∧
      ((wanted && !w.activeAt r) = false → told = []) ∧
      Tells told w (ends (statement (runnerOps r) wanted obtained note steps) w).2 := by
  obtain ⟨told, hone, hstarts, htells⟩ := tells_makeSteps (r := r) hs hn wanted w
  have hrelease : Moves Quiet (if obtained then (runnerOps r).release else pure () : Session Unit) :=
    .ite (moves_release r) (.pure ())
  unfold statement
  rw [world_andFinally]
  exact ⟨told, hone, hstarts, (hrelease.along _).trans_tells htells⟩

end

end Session

end SqlWeave
