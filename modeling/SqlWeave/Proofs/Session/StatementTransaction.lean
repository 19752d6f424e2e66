import SqlWeave.Proofs.Session.Flag

/-!
# The transaction of a statement

A statement that wants a transaction starts one where none is active, and ends what it has started, in
all but a few cases. The cases are told exactly. A start may fail after the transaction has begun, and
nobody rolls back then. A hook before the rollback may fail, and the rollback is not made then. On a
server the connection of a runner that was obtained for the statement is closed when the runner is given
back, which ends the transaction after all.
-/

namespace SqlWeave

open Session Execution

open World (SameStanding SameSetting SameHook Reports Remarks Steadies Runs Hooked Announces)

variable {α β : Type} {R : World → World → Prop} {r : Nat} {w v : World}

/-! ## The steps inside -/

/-- Do the steps of a statement fail, or does a hook or the backend turn the commit after them down? -/
def World.failsInside (w : World) (steps : Steps (ExceptT Failure (StateM World)) α β) : Prop :=
  (∃ f, (ends steps.run w).1 = .error f) ∨ w.refusal? .beforeCommit ≠ none ∨
    (ends steps.run w).2.fault? .txCommit ≠ none

section Statement
variable {steps : Steps (ExceptT Failure (StateM World)) α β} {note : Failure → Session Unit}

/-- The steps and the commit after them end the transaction, or fail inside of it. -/
theorem body_cases (hs : Moves SameStanding steps.run) (hhooks : Moves (SameHook .beforeCommit) steps.run)
    (hv : v.endable r) :
    (¬ v.failsInside steps ∧ (ends (body (runnerOps r) steps true) v).2.activeAt r = false) ∨
    (v.failsInside steps ∧ ∃ f u, SameStanding v u ∧
      ends (body (runnerOps r) steps true) v = (.error f, u)) := by
  have hu := hs.along v
  have hhook := hhooks.along v
  unfold World.failsInside body
  rcases h : ends steps.run v with ⟨f | b, u⟩
  · rw [h] at hu
    exact Or.inr ⟨Or.inl ⟨f, rfl⟩, f, u, hu, ends_bind_error h⟩
  rw [h] at hu hhook
  have hl : u.letsCommit r ↔ v.refusal? .beforeCommit = none ∧ u.fault? .txCommit = none := by
    rw [World.letsCommit, hu.endable_iff, hhook.refusal?]
    simp [hv]
  rw [ends_bind_ok h, if_pos rfl]
  rcases commitTransaction_cases r u with ⟨hc, ha⟩ | ⟨hc, f, x, hx, he⟩
  · obtain ⟨hhook, hbackend⟩ := hl.mp hc
    refine Or.inl ⟨by simp [hhook, hbackend], ?_⟩
    exact (activeAt_bind (fun _ => Moves.pure b) u).trans ha
  · refine Or.inr ⟨Or.inr ?_, f, x, trans_of SameStanding hu hx, ends_bind_error he⟩
    rw [hl] at hc
    exact not_and_or.mp hc

theorem activeAt_tryRollback (hn : ∀ f, Moves SameStanding (note f)) (w : World) :
    (ends (tryRollback (runnerOps r) note) w).2.activeAt r = true ↔
      w.activeAt r = true ∧ ¬ w.letsRollback r := by
  unfold tryRollback
  rw [activeAt_bind, ends_execution_attempt]
  · exact activeAt_rollbackTransaction r w
  · intro x
    split
    · exact .pure _
    · exact hn _

theorem ends_bodyOrRollback (v : World) :
    ends (bodyOrRollback (runnerOps r) note steps true) v =
      match ends (body (runnerOps r) steps true) v with
      | (.ok b, u) => (.ok b, u)
      | (.error f, u) => ends (tryRollback (runnerOps r) note >>= fun _ => throw f) u := by
  unfold bodyOrRollback
  rw [ends_bind_ok (ends_execution_attempt _ v)]
  rcases ends (body (runnerOps r) steps true) v with ⟨f | b, u⟩ <;> rfl

/-- The steps call no hook around transactions, and the commit after them calls hooks around commits. -/
theorem hooked_body (hhooks : Moves (SameHook .beforeRollback) steps.run) (started : Bool) :
    Moves (SameHook .beforeRollback) (body (runnerOps r) steps started) := by
  have before : Hooked .beforeCommit (SameHook .beforeRollback) := SameHook.hooked (by decide)
  have after : Hooked .afterCommit (SameHook .beforeRollback) := SameHook.hooked (by decide)
  exact hhooks.bind fun b => .guarded (turns_commitTransaction r) (.pure b)

/-- What was started for the steps stays open when they fail inside of it and a hook stops the
rollback. -/
theorem activeAt_bodyOrRollback (hs : Moves SameStanding steps.run)
    (hhooks : ∀ h, ¬ h.isEntityHook → Moves (SameHook h) steps.run)
    (hn : ∀ f, Moves SameStanding (note f)) (hv : v.endable r) :
    (ends (bodyOrRollback (runnerOps r) note steps true) v).2.activeAt r = true ↔
      v.failsInside steps ∧ v.refusal? .beforeRollback ≠ none := by
  have hundo (f : Failure) (u : World) :
      (ends (tryRollback (runnerOps r) note >>= fun _ => throw f : Session β) u).2.activeAt r = true ↔
        u.activeAt r = true ∧ ¬ u.letsRollback r := by
    rw [activeAt_bind (fun _ => .throw f), activeAt_tryRollback hn]
  rw [ends_bodyOrRollback]
  rcases body_cases hs (hhooks _ nofun) hv with ⟨hf, ha⟩ | ⟨hf, f, u, hu, he⟩
  · -- The commit has ended the transaction, also when what follows it fails.
    rcases h : ends (body (runnerOps r) steps true) v with ⟨f | b, u⟩
    all_goals rw [h] at ha
    · exact (hundo f u).trans (by simp [ha, hf])
    · simp [hf, ha]
  · have hhook : SameHook .beforeRollback v u := (hooked_body (hhooks _ nofun) true).of_ends he
    have hl : u.letsRollback r ↔ v.refusal? .beforeRollback = none := by
      rw [World.letsRollback, hu.endable_iff, hhook.refusal?]
      simp [hv]
    rw [he]
    exact (hundo f u).trans (by simp [hl, hu.activeAt, hv.1, hf])

/-- Without a transaction of their own, the steps do no more than what they do. -/
theorem moves_bodyOrRollback [IsPreorder World R] (hs : Moves R steps.run) :
    Moves R (bodyOrRollback (runnerOps r) note steps false) := by
  refine Moves.bind (Moves.attempt (.bind hs fun b => .pure b)) fun x => ?_
  cases x with
  | ok b => exact .pure b
  | error f => exact .throw f

/-- The cases in which a statement that wants a transaction leaves it open: the start fails after the
transaction has begun, or something fails inside of it and the hook before the rollback fails, too. -/
def World.leavesOpen (w : World) (r : Nat) (steps : Steps (ExceptT Failure (StateM World)) α β) : Prop :=
  w.begins r .null ∧
    (w.refusal? .afterStart ≠ none ∨
      w.refusal? .beforeRollback ≠ none ∧ (ends (startTransaction r) w).2.failsInside steps)

theorem activeAt_makeSteps (hs : Moves SameStanding steps.run)
    (hhooks : ∀ h, ¬ h.isEntityHook → Moves (SameHook h) steps.run) (hn : ∀ f, Moves SameStanding (note f))
    (wanted : Bool) (w : World) :
    (ends (makeSteps (runnerOps r) wanted note steps) w).2.activeAt r = true ↔
      w.activeAt r = true ∨ wanted = true ∧ w.leavesOpen r steps := by
  have hskip (w : World) : (ends (bodyOrRollback (runnerOps r) note steps false) w).2.activeAt r =
      w.activeAt r := ((moves_bodyOrRollback hs).along w).activeAt r
  unfold makeSteps startIfWanted World.leavesOpen
  cases wanted with
  | false =>
    rw [if_neg Bool.false_ne_true, ends_bind_ok (ends_pure ..), hskip]
    simp
  | true =>
    have hact : ends (runnerOps r).isActive w = (.ok (w.activeAt r), w) := rfl
    rw [if_pos rfl, bind_assoc, ends_bind_ok hact]
    cases ha : w.activeAt r with
    | true =>
      rw [if_pos rfl, ends_bind_ok (ends_pure ..), hskip, ha]
      simp
    | false =>
      rw [if_neg Bool.false_ne_true, bind_assoc]
      show (ends (startTransaction r >>= _) w).2.activeAt r = true ↔ _
      rcases startTransaction_cases r .null w with ⟨hb, c, u, v, hu, hv, he⟩ | ⟨hb, f, v, hv, he⟩
      · have hcell : v.endable r := by
          rw [hv.standing.endable_iff, World.endable, World.activeAt_changeRunner,
            World.changeRunner_get_self]
          simp [Runner.begun]
        have before : Hooked .beforeStart (SameHook .beforeRollback) := SameHook.hooked (by decide)
        have after : Hooked .afterStart (SameHook .beforeRollback) := SameHook.hooked (by decide)
        have hhook : SameHook .beforeRollback w v := (turns_startTransaction r .null).of_ends he
        cases hr : w.refusal? .afterStart with
        | some f =>
          rw [hr] at he
          rw [ends_bind_error he]
          simp [hb, hcell.1]
        | none =>
          rw [hr] at he
          rw [ends_bind_ok he, ends_bind_ok (ends_pure ..), activeAt_bodyOrRollback hs hhooks hn hcell,
            hhook.refusal?, he]
          simp [hb, and_comm]
      · rw [ends_bind_error he, hv.activeAt, ha]
        simp [hb]

section
variable [IsPreorder World R] {ops : RunnerOps (ExceptT Failure (StateM World))}

/-- The steps of a statement move along `R` when the calls on the runner that they are made of do. -/
theorem moves_makeSteps_of (hactive : Moves R ops.isActive) (hstart : Moves R ops.start) (hcommit : Moves R ops.commit)
    (hrollback : Moves R ops.rollback) (hs : Moves R steps.run) (hn : ∀ f, Moves R (note f)) (wanted : Bool) :
    Moves R (makeSteps ops wanted note steps) := by
  have start : Moves R (startIfWanted ops wanted) :=
    .ite (hactive.bind fun _ => .ite (.pure _) (hstart.bind fun _ => .pure _)) (.pure _)
  have body (started : Bool) : Moves R (body ops steps started) := hs.bind fun b => .guarded hcommit (.pure b)
  have undo : Moves R (tryRollback ops note) := by
    refine (Moves.attempt hrollback).bind fun x => ?_
    split
    · exact .pure _
    · exact hn _
  refine start.bind fun started => (Moves.attempt (body started)).bind fun x => ?_
  split
  · exact .pure _
  · exact .guarded undo (.throw _)

/-- A statement moves along `R`, too, when its runner is given back along `R`. -/
theorem moves_statement_of (hactive : Moves R ops.isActive) (hstart : Moves R ops.start) (hcommit : Moves R ops.commit)
    (hrollback : Moves R ops.rollback) (hrelease : Moves R ops.release) (hs : Moves R steps.run)
    (hn : ∀ f, Moves R (note f)) (wanted obtained : Bool) :
    Moves R (statement ops wanted obtained note steps) :=
  (moves_makeSteps_of hactive hstart hcommit hrollback hs hn wanted).execution_andFinally (.ite hrelease (.pure _))

end

theorem moves_makeSteps (hs : Moves SameStanding steps.run) (hn : ∀ f, Moves SameStanding (note f))
    (wanted : Bool) : Moves SameSetting (makeSteps (runnerOps r) wanted note steps) :=
  moves_makeSteps_of ((moves_runner r).bind fun _ => .pure _) (moves_startTransaction r .null)
    (moves_commitTransaction r) (moves_rollbackTransaction r) (hs.mono fun _ _ => SameStanding.setting)
    (fun f => (hn f).mono fun _ _ => SameStanding.setting) wanted

/-- A statement changes whether a transaction is active exactly when it leaves its own one open and the
runner does not close its connection. -/
theorem activeAt_statement (hs : Moves SameStanding steps.run)
    (hhooks : ∀ h, ¬ h.isEntityHook → Moves (SameHook h) steps.run) (hn : ∀ f, Moves SameStanding (note f))
    (wanted obtained : Bool) (hfresh : obtained = true → w.dialect.isNetwork → w.activeAt r = false) :
    (ends (statement (runnerOps r) wanted obtained note steps) w).2.activeAt r ≠ w.activeAt r ↔
      wanted = true ∧ w.leavesOpen r steps ∧ ¬ (obtained = true ∧ w.dialect.isNetwork) := by
  have hu := (moves_makeSteps (r := r) hs hn wanted).along w
  have ha := activeAt_makeSteps (r := r) hs hhooks hn wanted w
  unfold statement
  rw [world_andFinally]
  generalize (ends (makeSteps (runnerOps r) wanted note steps) w).2 = u at hu ha
  have hafter : (ends (if obtained then (runnerOps r).release else pure () : Session Unit) u).2.activeAt r
      = true ↔ u.activeAt r = true ∧ ¬ (obtained = true ∧ w.closes r) := by
    cases obtained with
    | false => simp
    | true => exact (activeAt_release r u).trans (by simp [hu.closes_iff])
  cases hw : w.activeAt r with
  | true =>
    -- A transaction of the caller: no start is tried, and a runner with one was not obtained here.
    have hopen : ¬ (obtained = true ∧ w.closes r) := fun h => by
      simp [hfresh h.1 h.2.1] at hw
    have hbegins : ¬ w.leavesOpen r steps := fun h => by
      simp [inactive_of_begins h.1] at hw
    rw [hafter.mpr ⟨ha.mpr (Or.inl hw), hopen⟩]
    simp [hbegins]
  | false =>
    rw [Ne, Bool.not_eq_false, hafter, ha, hw]
    constructor
    · rintro ⟨h | ⟨hwanted, hleaves⟩, hclosed⟩
      · cases h
      · exact ⟨hwanted, hleaves, fun h => hclosed ⟨h.1, h.2, by simp [unreleased_of_begins hleaves.1]⟩⟩
    · rintro ⟨hwanted, hleaves, hclosed⟩
      exact ⟨Or.inr ⟨hwanted, hleaves⟩, fun h => hclosed ⟨h.1, h.2.1⟩⟩

end Statement

/-! ## A builder's statement -/

/-- A builder comes to run its statement: on runner `r`, from the world `w₁` on in which it has found
the runner, by these steps. -/
def World.ComesToRun (w : World) (b : Builder Nat) (given : Value) (r : Nat) (w₁ : World)
    (steps : Steps (ExceptT Failure (StateM World)) QueryOutcome Outcome) : Prop :=
  ∃ payloads sql values v, payloadsOf b = .ok payloads ∧
    (w.statement b).bound w.catalog = .ok (sql, values) ∧
    ends (obtainRunner given) w = (.ok v, w₁) ∧ v.handle? = some (.runner r) ∧
    steps = stepsOf b payloads r sql values

/-- The steps of a builder's statement move along `R` when its query does. -/
theorem moves_stepsOf_of [IsPreorder World R] [Steadies R] [Announces R] (b : Builder Nat) (payloads : List Value) (r : Nat)
    (sql : String) (values : List Value) (h : Moves R (query r (.text sql) (.list values))) :
    Moves R (stepsOf b payloads r sql values).run :=
  (moves_stepsOf_before ..).bind fun _ => h.bind fun _ => (moves_outcomeOf ..).bind fun _ =>
    (moves_stepsOf_after ..).bind fun _ => .pure _

theorem moves_stepsOf [IsPreorder World R] [Runs R] [Announces R] (b : Builder Nat)
    (payloads : List Value) (r : Nat) (sql : String) (values : List Value) :
    Moves R (stepsOf b payloads r sql values).run :=
  moves_stepsOf_of b payloads r sql values (moves_query ..)

theorem moves_noteRollback [IsPreorder World R] [Remarks R] (f : Failure) :
    Moves R (noteRollback f) :=
  moves_sourceField.bind fun _ => moves_log ..

/-- A new runner has no transaction. -/
theorem addRunner_spec (mode : Value) (w : World) :
    ∃ v, ends (addRunner mode) w = (.ok w.runners.next, v) ∧ v.dialect = w.dialect ∧
      v.activeAt w.runners.next = false :=
  ⟨_, rfl, rfl, congrArg Runner.active (Store.get_put_self w.runners w.runners.next _)⟩

theorem sharedRunner_spec (mode : Value) (w : World) :
    ∃ r v, ends (sharedRunner mode) w = (.ok r, v) ∧ v.dialect = w.dialect := by
  unfold sharedRunner
  rw [ends_bind_ok (ends_get w)]
  cases w.shared with
  | some r => exact ⟨r, w, rfl, rfl⟩
  | none => exact ⟨_, _, rfl, rfl⟩

theorem driverRunner_cases (mode : Value) (w : World) :
    (∃ f v, SameStanding w v ∧ ends (driverRunner mode) w = (.error f, v)) ∨
    (∃ r v, v.dialect = w.dialect ∧ (w.dialect.isNetwork → v.activeAt r = false) ∧
      ends (driverRunner mode) w = (.ok r, v)) := by
  unfold driverRunner
  rw [ends_bind_ok (ends_get w)]
  cases hd : w.dialect.isNetwork with
  | true =>
    rw [if_pos rfl]
    rcases ends_unless w.engine.isNone (Failure.notConnected w.sourceName) (fun _ => addRunner mode) w
      with ⟨-, v, hv, he⟩ | ⟨-, he⟩
    · exact Or.inl ⟨_, v, hv.sameCore.standing, he⟩
    · obtain ⟨v, hv, hdialect, hnew⟩ := addRunner_spec mode w
      exact Or.inr ⟨_, v, hdialect, fun _ => hnew, he.trans hv⟩
  | false =>
    rw [if_neg Bool.false_ne_true]
    rcases ends_unless w.live.isNone (Failure.notConnected w.sourceName) (fun _ => sharedRunner mode) w
      with ⟨-, v, hv, he⟩ | ⟨-, he⟩
    · exact Or.inl ⟨_, v, hv.sameCore.standing, he⟩
    · obtain ⟨r, v, hv, hdialect⟩ := sharedRunner_spec mode w
      exact Or.inr ⟨r, v, hdialect, by simp, he.trans hv⟩

/-- Asking for a runner fails without a change, or gives one. On a server it is a new one, which has no
transaction. -/
theorem createRunner_cases (mode : Value) (w : World) :
    (∃ f v, SameStanding w v ∧ ends (createRunner mode) w = (.error f, v)) ∨
    (∃ r v, v.dialect = w.dialect ∧ (w.dialect.isNetwork → v.activeAt r = false) ∧
      ends (createRunner mode) w = (.ok r, v)) := by
  unfold createRunner
  rw [ends_bind_ok (ends_get w)]
  rcases ends_unless (!w.initialized) (Failure.notConnected w.sourceName) (fun _ => driverRunner mode) w
    with ⟨-, v, hv, he⟩ | ⟨-, he⟩
  · exact Or.inl ⟨_, v, hv.sameCore.standing, he⟩
  · rw [he]
    exact driverRunner_cases mode w

/-- What is found for a runner: what was given, without a change, or what the data source gives. -/
theorem obtainRunner_cases (given : Value) (w : World) :
    (given.truth = true ∧ ends (obtainRunner given) w = (.ok given, w)) ∨
    (given.truth = false ∧ ∃ f v, SameStanding w v ∧ ends (obtainRunner given) w = (.error f, v)) ∨
    (given.truth = false ∧ ∃ o r v, o.handle? = some (.runner r) ∧
      (v.dialect.isNetwork → v.activeAt r = false) ∧ ends (obtainRunner given) w = (.ok o, v)) := by
  unfold obtainRunner
  cases given.truth with
  | true => exact Or.inl ⟨rfl, rfl⟩
  | false =>
    rw [if_neg Bool.false_ne_true]
    rcases createRunner_cases usualMode w with ⟨f, v, hv, he⟩ | ⟨r, v, hd, hnew, he⟩
    · exact Or.inr (Or.inl ⟨rfl, f, v, hv, ends_bind_error he⟩)
    · rw [← hd] at hnew
      exact Or.inr (Or.inr ⟨rfl, v.object (.runner r), r, v, rfl, hnew, by rw [ends_bind_ok he]; rfl⟩)

theorem ends_execute {b : Builder Nat} {given : Value} {w₁ : World}
    {steps : Steps (ExceptT Failure (StateM World)) QueryOutcome Outcome}
    (h : w.ComesToRun b given r w₁ steps) :
    ends (execute b given) w =
      ends (statement (runnerOps r) b.draft.useTransaction.truth (!given.truth) noteRollback steps) w₁ := by
  obtain ⟨payloads, sql, values, v, hp, hq, ho, hr, rfl⟩ := h
  have hbound : ends (queryBound b) w = (.ok (sql, values), w) := by
    unfold queryBound
    rw [ends_bind_ok (ends_get w), hq]
    rfl
  unfold execute
  rw [hp, ends_bind_ok (ends_ofResult_ok ..), ends_bind_ok hbound]
  dsimp only
  rw [ends_bind_ok ho, hr]

/-- A builder that does not come to run its statement fails, and does no more than to leave notes and to ask
for a runner in vain. -/
theorem execute_of_not_comesToRun [IsPreorder World R] [Reports R] {b : Builder Nat} {given : Value}
    (hobtain : ∀ f v, ends (obtainRunner given) w = (.error f, v) → R w v)
    (h : ∀ r w₁ steps, ¬ w.ComesToRun b given r w₁ steps) :
    ∃ f v, R w v ∧ ends (execute b given) w = (.error f, v) := by
  have hfails {α : Type} {x : Result α} {f : Failure} {v : World} (he : ends (ofResult x) w = (.error f, v)) :
      R w v := (moves_ofResult (R := R) x).of_ends he
  unfold execute
  rcases ends_ofResult (payloadsOf b) w with ⟨payloads, hp, he⟩ | ⟨f, v, -, -, he⟩
  case inr => exact ⟨f, v, hfails he, ends_bind_error he⟩
  have hget : ends (queryBound b) w = ends (ofResult ((w.statement b).bound w.catalog)) w :=
    ends_bind_ok (ends_get w)
  rw [ends_bind_ok he]
  rcases ends_ofResult ((w.statement b).bound w.catalog) w with ⟨⟨sql, values⟩, hq, he⟩ | ⟨f, v, -, -, he⟩
  case inr => exact ⟨f, v, hfails he, ends_bind_error (hget.trans he)⟩
  rw [ends_bind_ok (hget.trans he)]
  dsimp only
  rcases obtainRunner_cases given w with ⟨-, he⟩ | ⟨-, f, v, -, he⟩ | ⟨-, o, r, v, ho, -, he⟩
  · rw [ends_bind_ok he]
    split
    case h_1 r hr => exact absurd ⟨payloads, sql, values, given, hp, hq, he, hr, rfl⟩ (h r w _)
    case h_2 => exact ⟨_, w, refl_of R w, rfl⟩
  · exact ⟨f, v, hobtain f v he, ends_bind_error he⟩
  · exact absurd ⟨payloads, sql, values, o, hp, hq, he, ho, rfl⟩ (h r v _)

/-- A builder that does not come to run its statement leaves every runner's transaction alone. -/
theorem activeAt_execute_of_not_comesToRun {b : Builder Nat} {given : Value}
    (h : ∀ r w₁ steps, ¬ w.ComesToRun b given r w₁ steps) (i : Nat) :
    (ends (execute b given) w).2.activeAt i = w.activeAt i := by
  have hobtain (f : Failure) (v : World) (hv : ends (obtainRunner given) w = (.error f, v)) :
      SameStanding w v := by
    rcases obtainRunner_cases given w with ⟨-, he⟩ | ⟨-, _, _, hs, he⟩ | ⟨-, _, _, _, -, -, he⟩
    all_goals
      rw [he] at hv
      cases hv
    exact hs
  obtain ⟨f, v, hv, he⟩ := execute_of_not_comesToRun hobtain h
  rw [he]
  exact hv.activeAt i

/-- When executing a builder changes whether a transaction is active. The runner that it has found keeps
its transaction exactly as it was, except in these cases: a transaction was wanted and begun, and is left
open, and the runner is no server's runner that was obtained for it. A builder that does not come to run
its statement changes nothing. -/
theorem activeAt_execute_ne_iff (b : Builder Nat) (given : Value) (w : World) :
    (∀ r w₁ steps, w.ComesToRun b given r w₁ steps →
      ((ends (execute b given) w).2.activeAt r ≠ w₁.activeAt r ↔
        b.draft.useTransaction.truth = true ∧ w₁.leavesOpen r steps ∧
          ¬ (given.truth = false ∧ w₁.dialect.isNetwork))) ∧
    ((∀ r w₁ steps, ¬ w.ComesToRun b given r w₁ steps) →
      ∀ i, (ends (execute b given) w).2.activeAt i = w.activeAt i) := by
  refine ⟨fun r w₁ steps h => ?_, activeAt_execute_of_not_comesToRun⟩
  have hfresh : (!given.truth) = true → w₁.dialect.isNetwork → w₁.activeAt r = false := by
    intro hg hd
    obtain ⟨_, _, _, v, -, -, ho, hr, -⟩ := h
    rcases obtainRunner_cases given w with ⟨ht, -⟩ | ⟨-, f, u, -, he⟩ | ⟨-, o, i, u, hi, hnew, he⟩
    · simp [ht] at hg
    · rw [he] at ho
      cases ho
    · rw [he] at ho
      cases ho
      rw [hi] at hr
      cases hr
      exact hnew hd
  have hs : Moves SameStanding steps.run := by
    obtain ⟨_, _, _, _, -, -, -, -, rfl⟩ := h
    exact moves_stepsOf ..
  have hhooks (g : Hook) (hg : ¬ g.isEntityHook) : Moves (SameHook g) steps.run := by
    have announced : Announces (SameHook g) := SameHook.announces hg
    obtain ⟨_, _, _, _, -, -, -, -, rfl⟩ := h
    exact moves_stepsOf ..
  rw [ends_execute h, activeAt_statement hs hhooks (fun f => moves_noteRollback f) _ _ hfresh]
  simp

/-- A data source whose only subscriber fails after every start of a transaction. -/
def World.refusingStarts : World :=
  { initialized := true
    live := some 1
    engine := some 0
    subscribers := [{ hooks := ["after_transaction_start"]
                      refusals := [("after_transaction_start", .fault "RuntimeError" "no")] }] }

/-- A statement that wants a transaction. -/
def Builder.wantingTransaction : Builder Nat := { draft := { useTransaction := .bool true } }

/-- The start fails after the transaction has begun, and the shared runner keeps it open. -/
theorem execute_refusingStarts :
    (ends (execute .wantingTransaction .null) .refusingStarts).2.activeAt 0 ≠
      (ends (obtainRunner .null) .refusingStarts).2.activeAt 0 :=
  (((activeAt_execute_ne_iff .wantingTransaction .null .refusingStarts).1 0 _ _
    ⟨[], "SELECT *", [], _, rfl, rfl, rfl, rfl, rfl⟩).mpr
    ⟨rfl, ⟨rfl, Or.inl (by decide)⟩, by decide⟩)

end SqlWeave
