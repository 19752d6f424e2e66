import Mathlib.Data.List.Nodup
import SqlWeave.Proofs.Session.Journal
import SqlWeave.Proofs.Session.Sending
import SqlWeave.Proofs.Session.Told

/-!
# The life of a statement

Which calls are made around a statement, in which order and after which others: `Execution.Lifecycle`. A
statement starts a transaction only when one is wanted and none is active. Then it makes its steps, each only
after all calls before it have succeeded, and commits what it has started. When a call fails after the start,
the statement rolls back, once. A commit that was carried out may thus be followed by the call of a rollback,
when what comes after the commit fails; but of this rollback the backend is not told. The statement itself is
sent at most once, by its query.
-/

namespace SqlWeave

open Session Execution

/-! ## Calls one after the other -/

namespace UntilFailure

variable {steps : List Stage} {made : List Made} {failure : Option Failure}

/-- Calls are made in order. -/
theorem map_fst_prefix (h : UntilFailure steps made failure) : made.map Prod.fst <+: steps := by
  induction h with
  | done => exact List.prefix_rfl
  | failed => exact List.prefix_append [_] _
  | passed _ ih => exact (List.prefix_cons_inj _).mpr ih

theorem isSome_iff (h : UntilFailure steps made failure) :
    failure.isSome ↔ ∃ p ∈ made, p.2.isSome := by
  induction h with
  | done => simp
  | failed => simp
  | passed _ ih => simpa using ih

/-- A call is made exactly when all calls before it were made and have succeeded. -/
theorem mem_iff {before after : List Stage} {step : Stage} (h : UntilFailure (before ++ step :: after) made failure)
    (hnodup : (before ++ step :: after).Nodup) :
    step ∈ made.map Prod.fst ↔ ∀ earlier ∈ before, (earlier, none) ∈ made := by
  induction before generalizing made with
  | nil => cases h <;> simp
  | cons first before ih =>
    rw [List.cons_append, List.nodup_cons, List.mem_append, List.mem_cons, not_or, not_or] at hnodup
    obtain ⟨⟨hbefore, hstep, -⟩, hnodup⟩ := hnodup
    cases h with
    | failed =>
      refine iff_of_false (by simpa using Ne.symm hstep) fun hall => ?_
      simpa using hall first (List.mem_cons_self ..)
    | @passed _ _ later _ h =>
      have hne (earlier : Stage) (he : earlier ∈ before) : earlier ≠ first := fun heq => hbefore (heq ▸ he)
      rw [List.map_cons, List.mem_cons, or_iff_right (Ne.symm hstep), ih h hnodup, List.forall_mem_cons,
        and_iff_right (List.mem_cons_self ..)]
      refine forall₂_congr fun earlier he => ?_
      simp [hne earlier he]

end UntilFailure

/-! ## The calls of a statement -/

namespace Execution

/-- The calls that a statement makes when none of them fails, up to the commit of what it has started. -/
def planned (starts : Bool) : List Stage := (if starts then [.start] else []) ++ inner starts

theorem nodup_planned (starts : Bool) : (planned starts).Nodup := by
  cases starts <;> decide

theorem planned_sublist (starts : Bool) : (planned starts).Sublist (planned true) := by
  cases starts <;> decide

/-- The calls of a statement, from whether it is to start a transaction, and whether its runner was obtained
for it. -/
structure Lifecycle (starts obtained : Bool) (made : List Made) : Prop where
  /-- Each call is made at most once, and in this order. -/
  order : (made.map Prod.fst).Sublist
    [.start, .before, .query, .result, .after, .commit, .rollback, .release]
  /-- A call that is planned is made exactly when all calls before it were made and have succeeded. -/
  planned_iff : ∀ before step after, planned starts = before ++ step :: after →
    (step ∈ made.map Prod.fst ↔ ∀ earlier ∈ before, (earlier, none) ∈ made)
  unplanned : ∀ step ∈ made.map Prod.fst, step ∈ planned starts ∨ step = .rollback ∨ step = .release
  /-- There is a rollback exactly when the start has succeeded and something failed after it. -/
  rollback_iff : .rollback ∈ made.map Prod.fst ↔
    (.start, none) ∈ made ∧ ∃ step ∈ inner true, ∃ f, (step, some f) ∈ made
  release_iff : .release ∈ made.map Prod.fst ↔ obtained = true

namespace Lifecycle

variable {starts obtained : Bool} {made : List Made}

theorem nodup (h : Lifecycle starts obtained made) : (made.map Prod.fst).Nodup := h.order.nodup (by decide)

theorem start_iff (h : Lifecycle starts obtained made) : .start ∈ made.map Prod.fst ↔ starts = true := by
  cases starts with
  | true => simp [h.planned_iff [] .start (inner true) rfl]
  | false => exact iff_of_false (fun hmem => absurd (h.unplanned _ hmem) (by decide)) Bool.false_ne_true

end Lifecycle

/-- The calls of a statement in three parts: what was planned until a call fails, what undoes it, and the
return of the runner. -/
structure Parts (starts : Bool) (main undo released : List Made) (failure : Option Failure) : Prop where
  main : UntilFailure (planned starts) main failure
  undo : (undo.map Prod.fst).Sublist [.rollback]
  released : (released.map Prod.fst).Sublist [.release]

namespace Parts

variable {starts : Bool} {main undo released : List Made} {failure : Option Failure} {step : Stage}

theorem main_sublist (h : Parts starts main undo released failure) :
    (main.map Prod.fst).Sublist (planned true) :=
  h.main.map_fst_prefix.sublist.trans (planned_sublist starts)

/-- What is planned and what follows it have no call in common. -/
theorem not_mem_later (h : Parts starts main undo released failure) (hstep : step ∈ planned true) :
    step ∉ (undo ++ released).map Prod.fst := fun hmem => by
  rw [List.map_append] at hmem
  exact absurd ((h.undo.append h.released).subset hmem) (by revert hstep; cases step <;> decide)

theorem mem_map_iff (h : Parts starts main undo released failure) (hstep : step ∈ planned true) :
    step ∈ (main ++ undo ++ released).map Prod.fst ↔ step ∈ main.map Prod.fst := by
  rw [List.append_assoc, List.map_append, List.mem_append, or_iff_left (h.not_mem_later hstep)]

theorem mem_iff (h : Parts starts main undo released failure) (hstep : step ∈ planned true)
    (ending : Option Failure) : (step, ending) ∈ main ++ undo ++ released ↔ (step, ending) ∈ main := by
  rw [List.append_assoc, List.mem_append, or_iff_left fun hmem => h.not_mem_later hstep (List.mem_map_of_mem hmem)]

theorem rollback_mem_map_iff (h : Parts starts main undo released failure) :
    .rollback ∈ (main ++ undo ++ released).map Prod.fst ↔ .rollback ∈ undo.map Prod.fst := by
  have hmain : .rollback ∉ main.map Prod.fst := fun hmem => absurd (h.main_sublist.subset hmem) (by decide)
  have hreleased : .rollback ∉ released.map Prod.fst := fun hmem => absurd (h.released.subset hmem) (by decide)
  rw [List.map_append, List.map_append, List.mem_append, List.mem_append, or_iff_left hreleased, or_iff_right hmain]

theorem release_mem_map_iff (h : Parts starts main undo released failure) :
    .release ∈ (main ++ undo ++ released).map Prod.fst ↔ .release ∈ released.map Prod.fst := by
  have hmain : .release ∉ main.map Prod.fst := fun hmem => absurd (h.main_sublist.subset hmem) (by decide)
  have hundo : .release ∉ undo.map Prod.fst := fun hmem => absurd (h.undo.subset hmem) (by decide)
  rw [List.map_append, List.map_append, List.mem_append, List.mem_append, or_iff_right (not_or.mpr ⟨hmain, hundo⟩)]

/-- After a start that has succeeded, a failure is one of a later call. -/
theorem isSome_iff (h : Parts starts main undo released failure) (hstart : (.start, none) ∈ main) :
    failure.isSome ↔ ∃ step ∈ inner true, ∃ f, (step, some f) ∈ main := by
  rw [h.main.isSome_iff]
  constructor
  · rintro ⟨⟨step, ending⟩, hmem, hsome⟩
    obtain ⟨f, rfl⟩ := Option.isSome_iff_exists.mp hsome
    rcases List.mem_cons.mp (h.main_sublist.subset (List.mem_map_of_mem hmem)) with rfl | hinner
    · cases List.inj_on_of_nodup_map (h.main_sublist.nodup (nodup_planned true)) hmem hstart rfl
    · exact ⟨step, hinner, f, hmem⟩
  · rintro ⟨step, -, f, hmem⟩
    exact ⟨(step, some f), hmem, rfl⟩

end Parts

/-- A statement makes what is planned until a call fails, and then it rolls back what it has started. -/
theorem Course.exists_parts {starts : Bool} {made released : List Made} (h : Course starts made)
    (hreleased : (released.map Prod.fst).Sublist [.release]) :
    ∃ main undo failure, Parts starts main undo released failure ∧ made = main ++ undo ∧
      (.rollback ∈ undo.map Prod.fst ↔ (.start, none) ∈ main ∧ failure.isSome) := by
  cases h with
  | @refused f hstarts =>
    obtain rfl := hstarts
    exact ⟨[(.start, some f)], [], some f, ⟨.failed, List.nil_sublist _, hreleased⟩, rfl, by simp⟩
  | @ran main failure undone h =>
    cases starts with
    | false =>
      have hstart : (Stage.start, (none : Option Failure)) ∉ main := fun hmem =>
        absurd (h.map_fst_prefix.subset (List.mem_map_of_mem hmem)) (by decide)
      exact ⟨main, [], failure, ⟨h, List.nil_sublist _, hreleased⟩, by simp, by simp [hstart]⟩
    | true =>
      refine ⟨(.start, none) :: main, if failure.isSome then [(.rollback, undone)] else [], failure,
        ⟨.passed h, ?_, hreleased⟩, by simp, ?_⟩
      · split <;> simp
      · split <;> simp [*]

/-- The calls of a statement that has run its course, with what follows it in every case. -/
theorem Course.lifecycle {starts obtained : Bool} {made released : List Made} (h : Course starts made)
    (hsub : (released.map Prod.fst).Sublist [.release]) (hreleased : .release ∈ released.map Prod.fst ↔ obtained) :
    Lifecycle starts obtained (made ++ released) := by
  obtain ⟨main, undo, failure, hparts, rfl, hrollback⟩ := h.exists_parts hsub
  have hinner (step : Stage) (hstep : step ∈ inner true) : step ∈ planned true := List.mem_cons_of_mem _ hstep
  refine ⟨?order, ?planned_iff, ?unplanned, ?rollback_iff, ?release_iff⟩
  case order =>
    rw [List.map_append, List.map_append]
    exact (hparts.main_sublist.append hparts.undo).append hsub
  case planned_iff =>
    intro before step after heq
    have hin (x : Stage) (hx : x ∈ before ++ step :: after) : x ∈ planned true :=
      (planned_sublist starts).subset (heq ▸ hx)
    have hmain := hparts.main
    have hnodup := nodup_planned starts
    rw [heq] at hmain hnodup
    rw [hparts.mem_map_iff (hin step (by simp)), hmain.mem_iff hnodup]
    exact forall₂_congr fun earlier hearlier => (hparts.mem_iff (hin earlier (by simp [hearlier])) none).symm
  case unplanned =>
    intro step hstep
    rw [List.map_append, List.map_append, List.mem_append, List.mem_append] at hstep
    rcases hstep with (hstep | hstep) | hstep
    · exact .inl (hparts.main.map_fst_prefix.subset hstep)
    · exact .inr (.inl (List.mem_singleton.mp (hparts.undo.subset hstep)))
    · exact .inr (.inr (List.mem_singleton.mp (hsub.subset hstep)))
  case rollback_iff =>
    rw [hparts.rollback_mem_map_iff, hrollback, hparts.mem_iff (by decide)]
    refine and_congr_right fun hstart => (hparts.isSome_iff hstart).trans ?_
    exact exists_congr fun step => and_congr_right fun hstep => exists_congr fun f =>
      (hparts.mem_iff (hinner step hstep) _).symm
  case release_iff => rw [hparts.release_mem_map_iff, hreleased]

end Execution

/-! ## A builder's statement -/

namespace Session

open World (Tells Quiet Sent)

variable {r : Nat} {w w₁ : World} {b : Builder Nat} {given : Value}
  {steps : Steps (ExceptT Failure (StateM World)) QueryOutcome Outcome}

/-- Executing the builder on runner `r` makes these calls: its statement, with a journal of them, ends as it
does without. -/
def ExecutesBy (b : Builder Nat) (given : Value) (w : World) (r : Nat) (w₁ : World)
    (steps : Steps (ExceptT Failure (StateM World)) QueryOutcome Outcome) (made : List Made) : Prop :=
  Journaled.outcome (statement (runnerOps r).journaled b.draft.useTransaction.truth (!given.truth)
    (fun f => Journaled.unnoted (noteRollback f)) steps.journaled) w₁ [] =
      ((ends (execute b given) w).1, (ends (execute b given) w).2, made)

theorem result_noteRollback (f : Failure) (w : World) : (ends (noteRollback f) w).1 = .ok ⟨⟩ := rfl

/-- The steps of a builder's statement on runner `r`, with the start of its transaction and the way it ends. -/
abbrev makesSteps (b : Builder Nat) (r : Nat) (steps : Steps (ExceptT Failure (StateM World)) QueryOutcome Outcome) :
    Session Outcome :=
  makeSteps (runnerOps r) b.draft.useTransaction.truth noteRollback steps

/-- Executing a builder runs the course of its statement, which ends with the first failure in it, and then gives the
runner back when it was obtained. -/
theorem exists_course (h : w.ComesToRun b given r w₁ steps) : ∃ made,
    Course (b.draft.useTransaction.truth && !w₁.activeAt r) made ∧
    firstFailure? made = failure? (ends (makesSteps b r steps) w₁).1 ∧
    ExecutesBy b given w r w₁ steps (made ++ if !given.truth then
      [(.release, failure? (ends (release r) (ends (makesSteps b r steps) w₁).2).1)] else []) := by
  have hactive : ends (runnerOps r).isActive w₁ = (.ok (w₁.activeAt r), w₁) := rfl
  obtain ⟨made, hcourse, hfirst, hmade⟩ := records_statement steps result_noteRollback hactive
    b.draft.useTransaction.truth (!given.truth)
  refine ⟨made, hcourse, hfirst, ?_⟩
  unfold ExecutesBy
  rw [hmade [], ends_execute h]
  rfl

theorem exists_executesBy (h : w.ComesToRun b given r w₁ steps) : ∃ made, ExecutesBy b given w r w₁ steps made ∧
    Lifecycle (b.draft.useTransaction.truth && !w₁.activeAt r) (!given.truth) made := by
  obtain ⟨made, hcourse, -, hby⟩ := exists_course h
  refine ⟨_, hby, hcourse.lifecycle ?_ ?_⟩
  · split <;> simp
  · split <;> simp [*]

/-- What the backend is told of the ends of transactions while a builder is executed: nothing, when no
transaction is started for it, and otherwise at most one end that it does not turn down. -/
theorem tells_execute (h : w.ComesToRun b given r w₁ steps) : ∃ told, OneEnd (w.fault? .txCommit ≠ none) told ∧
    ((b.draft.useTransaction.truth && !w₁.activeAt r) = false → told = []) ∧
    Tells told w (ends (execute b given) w).2 := by
  obtain ⟨payloads, sql, values, v, hp, hq, ho, hr, rfl⟩ := id h
  have hobtained : Quiet w w₁ := (moves_obtainRunner (R := Quiet) given).of_ends ho
  have hnote (f : Failure) : Moves Quiet (noteRollback f) := moves_noteRollback f
  obtain ⟨told, hone, hstarts, htells⟩ := tells_statement (r := r) (moves_stepsOf b payloads r sql values) hnote
    b.draft.useTransaction.truth (!given.truth) w₁
  rw [hobtained.fault?] at hone
  rw [ends_execute h]
  exact ⟨told, hone, hstarts, hobtained.tells_trans htells⟩

/-- What is sent while a builder is executed is told by its calls. -/
theorem sent_execute {made : List Made} (h : w.ComesToRun b given r w₁ steps)
    (hby : ExecutesBy b given w r w₁ steps made) (hnodup : (made.map Prod.fst).Nodup) :
    ∃ sql values sent, (w.statement b).bound w.catalog = .ok (sql, values) ∧
      Sent sent w (ends (execute b given) w).2 ∧ OneStatement (.text sql) values made sent := by
  obtain ⟨payloads, sql, values, v, hp, hq, ho, hr, rfl⟩ := id h
  have hobtained : Sent [] w w₁ := (moves_obtainRunner given).of_ends ho
  obtain ⟨made', hmade, sent, hsent, haccounts⟩ :=
    keeps_stepsOf b payloads r sql values b.draft.useTransaction.truth (!given.truth) w₁
  -- The journal of a statement is one.
  have hjournal : ([] ++ made' : List Made) = made := congrArg (·.2.2) ((hmade []).symm.trans hby)
  rw [List.nil_append] at hjournal
  subst hjournal
  rw [ends_execute h]
  exact ⟨sql, values, sent, hq, hobtained.trans hsent, haccounts.oneStatement hnodup⟩

end Session

/-- A data source whose only subscriber fails after every commit. -/
def World.refusingAfterCommits : World :=
  { initialized := true
    live := some 1
    engine := some 0
    subscribers := [{ hooks := ["after_transaction_commit"]
                      refusals := [("after_transaction_commit", .fault "RuntimeError" "no")] }] }

end SqlWeave
