import SqlWeave.Proofs.Session.Calm
import SqlWeave.Proofs.Session.Lifecycle

/-!
# The failure that a statement ends with

Several calls around a statement may fail, one after the other: a step, then the rollback, then the return of the
runner. What a rollback fails with is only noted. What the return of a runner fails with is not, and hides what failed
before it.

Main result: a statement ends with the failure of the first call that failed, exactly as that call did, unless it has
obtained its runner itself and this cannot be given back. Whether it can is told by the world in which it is tried.
-/

namespace SqlWeave

open Session Execution

/-! ## Giving back -/

/-- What giving back a runner fails with, if it does: a server's runner with the close of the connection that it holds,
and the shared one of the database in memory with the automatic save of changes that were not saved yet. -/
def World.releaseFault? (w : World) (r : Nat) : Option Failure :=
  match w.dialect with
  | .sqlite => none
  | .sqljs =>
    if !w.activeAt r && (w.runners.get r).dirty then
      failure? (ends autoSave (w.changeRunner r fun x => { x with dirty := false })).1
    else none
  | _ => if !(w.runners.get r).released && (w.runners.get r).connection.isSome then w.fault? .close else none

namespace Session

variable {r : Nat} {w : World}

theorem passes_failure? (x : Result Unit) : passes (failure? x) = x := by
  cases x <;> rfl

theorem failure?_passes (failure : Option Failure) : failure? (passes failure) = failure := by
  cases failure <;> rfl

theorem result_flush (r : Nat) (w : World) : (ends (flush r) w).1 = passes
    (if (w.runners.get r).dirty then failure? (ends autoSave (w.changeRunner r fun x => { x with dirty := false })).1
      else none) := by
  unfold flush
  rw [ends_bind_ok (ends_runner r w)]
  by_cases hdirty : (w.runners.get r).dirty = true
  · rw [if_pos hdirty, if_pos hdirty, ends_bind_ok (ends_changeRunner ..), passes_failure?]
  · rw [if_neg hdirty, if_neg hdirty]
    rfl

theorem result_closeConnection (r : Nat) (w : World) : (ends (closeConnection r) w).1 =
    passes (if (w.runners.get r).connection.isSome then w.fault? .close else none) := by
  unfold closeConnection
  rw [ends_bind_ok (ends_runner r w), ends_bind_ok (ends_changeRunner ..)]
  cases (w.runners.get r).connection with
  | none => rfl
  | some c =>
    obtain ⟨v, -, hclose⟩ := ends_close c
      (w.changeRunner r fun x => { x with connection := none, transaction := none, active := false })
    exact congrArg Prod.fst hclose

theorem result_release (r : Nat) (w : World) : (ends (release r) w).1 = passes (w.releaseFault? r) := by
  unfold release World.releaseFault?
  rw [ends_bind_ok (ends_get w)]
  cases w.dialect
  case sqlite => rfl
  case sqljs =>
    dsimp only
    rw [ends_bind_ok (ends_runner r w), World.activeAt]
    cases (w.runners.get r).active with
    | true => rfl
    | false => exact (result_flush r w).trans rfl
  all_goals
    dsimp only
    rw [ends_bind_ok (ends_runner r w)]
    cases (w.runners.get r).released with
    | true => rfl
    | false =>
      have hclose := result_closeConnection r (w.changeRunner r fun x => { x with released := true })
      rw [World.changeRunner_get_self] at hclose
      exact hclose

end Session

/-! ## The first failure -/

theorem UntilFailure.eq_of_mem {steps : List Stage} {made : List Made} {failure : Option Failure}
    (h : UntilFailure steps made failure) {step : Stage} {f : Failure} (hmem : (step, some f) ∈ made) :
    failure = some f := by
  induction h with
  | done => cases hmem
  | failed =>
    cases List.mem_singleton.mp hmem
    rfl
  | passed _ ih =>
    rcases List.mem_cons.mp hmem with heq | hmem
    · cases heq
    · exact ih hmem

namespace Execution

/-- A planned call that failed is the first one that did. -/
theorem Course.firstFailure?_of_mem {starts : Bool} {made : List Made} (h : Course starts made) {step : Stage}
    (hstep : step ∈ planned true) {f : Failure} (hmem : (step, some f) ∈ made) : firstFailure? made = some f := by
  cases h with
  | refused =>
    cases List.mem_singleton.mp hmem
    rfl
  | @ran main failure undone hmain =>
    rw [firstFailure?_ran hmain]
    rcases List.mem_append.mp hmem with hmem | hmem
    · cases starts with
      | false => cases hmem
      | true => cases List.mem_singleton.mp hmem
    rcases List.mem_append.mp hmem with hmem | hmem
    · exact hmain.eq_of_mem hmem
    · -- A rollback is not planned.
      split at hmem
      · cases List.mem_singleton.mp hmem
        exact absurd hstep (by decide)
      · cases hmem

theorem Course.release_notMem {starts : Bool} {made : List Made} (h : Course starts made) :
    .release ∉ made.map Prod.fst := by
  have hnone : (([] : List Made).map Prod.fst).Sublist [.release] := List.nil_sublist _
  obtain ⟨main, undo, failed, hparts, rfl, -⟩ := h.exists_parts hnone
  intro hmem
  have hreleased := hparts.release_mem_map_iff.mp (by rwa [List.append_nil])
  cases hreleased

end Execution

/-! ## A builder's statement -/

namespace Session

variable {b : Builder Nat} {given : Value} {w w₁ : World} {r : Nat}
  {steps : Steps (ExceptT Failure (StateM World)) QueryOutcome Outcome}

/-- Where a runner that was obtained is given back: after the steps, and the rollback of what was started for them. -/
def worldBeforeRelease (b : Builder Nat) (r : Nat) (steps : Steps (ExceptT Failure (StateM World)) QueryOutcome Outcome)
    (w₁ : World) : World := (ends (makesSteps b r steps) w₁).2

/-- Executing a builder ends as its steps do, unless the runner that was obtained for it cannot be given back. -/
theorem result_execute (h : w.ComesToRun b given r w₁ steps) : (ends (execute b given) w).1 =
    match given.truth, (worldBeforeRelease b r steps w₁).releaseFault? r with
    | false, some g => .error g
    | _, _ => (ends (makesSteps b r steps) w₁).1 := by
  rw [ends_execute h]
  unfold statement
  cases given.truth with
  | true => exact result_andFinally_of_ok rfl
  | false =>
    have hrelease := result_release r (worldBeforeRelease b r steps w₁)
    cases hfault : (worldBeforeRelease b r steps w₁).releaseFault? r with
    | none =>
      rw [hfault] at hrelease
      exact result_andFinally_of_ok hrelease
    | some g =>
      rw [hfault] at hrelease
      exact result_andFinally_of_error hrelease

/-- A failure of executing a builder is one of asking it for its rows, too. -/
theorem executeRows_of_error {f : Failure} (h : (ends (execute b given) w).1 = .error f) :
    (ends (executeRows b given) w).1 = .error f := by
  unfold executeRows
  rw [ends_bind_error (ends_eq_of_result h)]

/-- **The failure that is reported.** When a call around a builder's statement fails, from the start of its transaction
to the commit, then this failure is the first one in the journal, and executing the builder ends with it, whatever the
rollback does. Only where a runner that was obtained cannot be given back, the failure of that hides it. -/
theorem execute_reports_first_failure (b : Builder Nat) (given : Value) (w : World) (r : Nat) (w₁ : World)
    (steps : Steps (ExceptT Failure (StateM World)) QueryOutcome Outcome) (h : w.ComesToRun b given r w₁ steps) :
    ∃ made, ExecutesBy b given w r w₁ steps made ∧
      (∀ failure, (.release, failure) ∈ made ↔
        given.truth = false ∧ failure = (worldBeforeRelease b r steps w₁).releaseFault? r) ∧
      ∀ step ∈ planned true, ∀ f, (step, some f) ∈ made → firstFailure? made = some f ∧
        (given.truth = true ∨ (worldBeforeRelease b r steps w₁).releaseFault? r = none →
          (ends (execute b given) w).1 = .error f ∧ (ends (executeRows b given) w).1 = .error f) ∧
        (given.truth = false → ∀ g, (worldBeforeRelease b r steps w₁).releaseFault? r = some g →
          (ends (execute b given) w).1 = .error g ∧ (ends (executeRows b given) w).1 = .error g) := by
  obtain ⟨made, hcourse, hfirst, hby⟩ := exists_course h
  rw [result_release, failure?_passes] at hby
  refine ⟨_, hby, fun failure => ?_, fun step hstep f hmem => ?_⟩
  · rw [List.mem_append, or_iff_right fun hmem => hcourse.release_notMem (List.mem_map_of_mem hmem)]
    cases given.truth with
    | true => simp
    | false => simp [worldBeforeRelease]
  · have hmade : (step, some f) ∈ made := by
      rcases List.mem_append.mp hmem with hmem | hmem
      · exact hmem
      · split at hmem
        · obtain rfl : step = .release := congrArg Prod.fst (List.mem_singleton.mp hmem)
          exact absurd hstep (by decide)
        · cases hmem
    have hfailed : firstFailure? made = some f := hcourse.firstFailure?_of_mem hstep hmade
    have hsteps : (ends (makesSteps b r steps) w₁).1 = .error f := by
      rw [hfirst] at hfailed
      cases hends : (ends (makesSteps b r steps) w₁).1 with
      | ok outcome =>
        rw [hends] at hfailed
        cases hfailed
      | error g =>
        rw [hends] at hfailed
        cases hfailed
        rfl
    have hresult := result_execute h
    refine ⟨?_, fun hkept => ?_, fun hgiven g hg => ?_⟩
    · rw [firstFailure?_append, hfailed, Option.some_or]
    · have hends : (ends (execute b given) w).1 = .error f := by
        rw [hresult, ← hsteps]
        rcases hkept with hgiven | hnone
        · rw [hgiven]
        · rw [hnone]
          cases given.truth <;> rfl
      exact ⟨hends, executeRows_of_error hends⟩
    · have hends : (ends (execute b given) w).1 = .error g := by rw [hresult, hgiven, hg]
      exact ⟨hends, executeRows_of_error hends⟩

end Session

/-- A server that turns the next statement down, and then loses the connection when it is closed. -/
def World.losingConnection : World :=
  { dialect := .postgres
    initialized := true
    engine := some 0
    backend :=
      { replies := [{ failure := some (.fault "RuntimeError" "no such table") }]
        faults := fun site => if site = .close then [some (.fault "RuntimeError" "connection lost")] else [] } }

/-- The statement has failed first, and the connection is what is reported. -/
theorem Session.lost_connection_hides_failure : ∃ made failed lost,
    ExecutesBy {} .null .losingConnection 0 (ends (obtainRunner .null) .losingConnection).2
      (stepsOf {} [] 0 "SELECT *" []) made ∧
    made = [(.before, none), (.query, some failed), (.release, some lost)] ∧
    (ends (execute {} .null) .losingConnection).1 = .error lost ∧
    lost.text = "connection lost" ∧ failed.className = "QueryFailedError" := by
  have hcomes : World.losingConnection.ComesToRun {} .null 0 (ends (obtainRunner .null) .losingConnection).2
      (stepsOf {} [] 0 "SELECT *" []) := ⟨[], "SELECT *", [], _, rfl, rfl, rfl, rfl, rfl⟩
  obtain ⟨made, hby, -, hreports⟩ := execute_reports_first_failure {} .null _ 0 _ _ hcomes
  let failed : Failure := .problem (.queryFailed (.text "SELECT *") []) (some (.fault "RuntimeError" "no such table"))
  let lost : Failure := .fault "RuntimeError" "connection lost"
  have hmade : made = [(.before, none), (.query, some failed), (.release, some lost)] := (congrArg (·.2.2) hby).symm
  refine ⟨made, failed, lost, hby, hmade, ?_, rfl, rfl⟩
  have hquery : (.query, some failed) ∈ made := by
    rw [hmade]
    exact List.mem_cons_of_mem _ List.mem_cons_self
  exact ((hreports .query (by decide) failed hquery).2.2 rfl lost rfl).1

end SqlWeave
