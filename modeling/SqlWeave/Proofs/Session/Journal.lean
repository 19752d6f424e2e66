import SqlWeave.Proofs.Session.Ending

/-!
# A journal of the calls around a statement

The order of an execution is told for the operations of any runner. Here they are those of a runner that
enters each call that is made on it, and each step of the statement, in a journal, with the failure that it
ended with. `Journaled.Makes` says that a journaled call ends as the call itself does and enters these steps,
one after the other, until the first that fails.
-/

namespace SqlWeave

open Session (ends)

/-- The calls around a statement, in the order in which they are made. -/
inductive Stage where
  | start | before | query | result | after | commit | rollback | release
  deriving DecidableEq

/-- A call that was made, with the failure that it ended with. -/
abbrev Made := Stage × Option Failure

/-- A call that keeps a journal. -/
abbrev Journaled (α : Type) := ExceptT Failure (StateM (World × List Made)) α

/-- The failure of a result. -/
def failure? {α : Type} : Result α → Option Failure
  | .ok _ => none
  | .error f => some f

namespace Journaled

variable {α β : Type}

/-- How a call ends, and the world and the journal that it leaves. -/
def outcome (t : Journaled α) (w : World) (journal : List Made) : Result α × World × List Made :=
  Id.run (StateT.run (ExceptT.run t) (w, journal))

/-- A call that is not entered. -/
def unnoted (s : Session α) : Journaled α :=
  ExceptT.mk fun x => ((ends s x.1).1, (ends s x.1).2, x.2)

/-- A call that is entered as a step. -/
def noted (step : Stage) (s : Session α) : Journaled α :=
  ExceptT.mk fun x => ((ends s x.1).1, (ends s x.1).2, x.2 ++ [(step, failure? (ends s x.1).1)])

theorem outcome_bind (t : Journaled α) (k : α → Journaled β) (w : World) (journal : List Made) :
    outcome (t >>= k) w journal = match outcome t w journal with
      | (.ok a, v, later) => outcome (k a) v later
      | (.error f, v, later) => (.error f, v, later) := by
  simp only [outcome, ExceptT.run_bind, StateT.run_bind, Id.run_bind]
  rcases h : Id.run (StateT.run (ExceptT.run t) (w, journal)) with ⟨_ | _, _, _⟩ <;> rfl

theorem outcome_tryCatch (t : Journaled α) (handle : Failure → Journaled α) (w : World) (journal : List Made) :
    outcome (tryCatch t handle) w journal = match outcome t w journal with
      | (.ok a, v, later) => (.ok a, v, later)
      | (.error f, v, later) => outcome (handle f) v later := by
  simp only [outcome, tryCatch, tryCatchThe, MonadExceptOf.tryCatch, ExceptT.tryCatch]
  have hbind (k : Result α → StateM (World × List Made) (Result α)) :
      Id.run (StateT.run (ExceptT.run t >>= k) (w, journal)) =
        Id.run (StateT.run (k (Id.run (StateT.run (ExceptT.run t) (w, journal))).1)
          (Id.run (StateT.run (ExceptT.run t) (w, journal))).2) := rfl
  refine (hbind _).trans ?_
  rcases Id.run (StateT.run (ExceptT.run t) (w, journal)) with ⟨f | a, v, later⟩
  · rfl
  · rfl

theorem outcome_attempt (t : Journaled α) (w : World) (journal : List Made) :
    outcome (Execution.attempt t) w journal = (.ok (outcome t w journal).1, (outcome t w journal).2) := by
  have hcatch := outcome_tryCatch (t >>= fun a => pure (Except.ok a : Result α))
    (fun f => pure (Except.error f)) w journal
  refine hcatch.trans ?_
  rw [outcome_bind]
  rcases outcome t w journal with ⟨_ | _, _, _⟩ <;> rfl

end Journaled

/-- The calls on a runner, as they are entered in a journal. -/
def RunnerOps.journaled (ops : RunnerOps (ExceptT Failure (StateM World))) :
    RunnerOps (ExceptT Failure (StateM (World × List Made))) where
  isActive := Journaled.unnoted ops.isActive
  start := Journaled.noted .start ops.start
  commit := Journaled.noted .commit ops.commit
  rollback := Journaled.noted .rollback ops.rollback
  release := Journaled.noted .release ops.release

/-- The steps of a statement, as they are entered in a journal. -/
def Execution.Steps.journaled {α β : Type} (steps : Steps (ExceptT Failure (StateM World)) α β) :
    Steps (ExceptT Failure (StateM (World × List Made))) α β where
  before := Journaled.noted .before steps.before
  query := Journaled.noted .query steps.query
  result answer := Journaled.noted .result (steps.result answer)
  after := Journaled.noted .after steps.after

/-! ## Calls one after the other -/

/-- Calls that are made one after the other, until one fails or all are made. -/
inductive UntilFailure : List Stage → List Made → Option Failure → Prop
  | done : UntilFailure [] [] none
  | failed {step : Stage} {rest : List Stage} {f : Failure} : UntilFailure (step :: rest) [(step, some f)] (some f)
  | passed {step : Stage} {rest : List Stage} {made : List Made} {failure : Option Failure}
    (h : UntilFailure rest made failure) : UntilFailure (step :: rest) ((step, none) :: made) failure

namespace UntilFailure

variable {steps steps' : List Stage} {made made' : List Made} {failure : Option Failure}

theorem append (h : UntilFailure steps made none) (h' : UntilFailure steps' made' failure) :
    UntilFailure (steps ++ steps') (made ++ made') failure := by
  induction steps generalizing made with
  | nil =>
    cases h
    exact h'
  | cons step rest ih =>
    cases h with
    | passed h => exact .passed (ih h)

theorem append_failed {f : Failure} (h : UntilFailure steps made (some f)) (steps' : List Stage) :
    UntilFailure (steps ++ steps') made (some f) := by
  induction steps generalizing made with
  | nil => cases h
  | cons step rest ih =>
    cases h with
    | failed => exact .failed
    | passed h => exact .passed (ih h)

end UntilFailure

/-- The step is entered once, and nothing is entered after it. -/
def OnlyLast (step : Stage) (made : List Made) : Prop :=
  ∃ earlier failure, made = earlier ++ [(step, failure)] ∧ step ∉ earlier.map Prod.fst

/-- The failure of the first call that failed. -/
def firstFailure? (made : List Made) : Option Failure := made.findSome? Prod.snd

theorem firstFailure?_append (made made' : List Made) :
    firstFailure? (made ++ made') = (firstFailure? made).or (firstFailure? made') := List.findSome?_append

theorem UntilFailure.firstFailure?_eq {steps : List Stage} {made : List Made} {failure : Option Failure}
    (h : UntilFailure steps made failure) : firstFailure? made = failure := by
  induction h with
  | done => rfl
  | failed => rfl
  | passed _ ih => exact ih

namespace Journaled

variable {α β : Type} {w v : World} {made made' : List Made} {t : Journaled α}
  {s : ExceptT Failure (StateM World) α}

/-- From the world `w` on, the journaled call ends as the call itself does, and it enters what was `made`. -/
def Records (w : World) (t : Journaled α) (s : ExceptT Failure (StateM World) α) (made : List Made) : Prop :=
  ∀ journal, outcome t w journal = ((ends s w).1, (ends s w).2, journal ++ made)

namespace Records

theorem pure (a : α) : Records w (pure a) (pure a) [] := fun journal => by
  rw [List.append_nil]
  rfl

theorem throw (f : Failure) : Records w (throw f : Journaled α) (throw f) [] := fun journal => by
  rw [List.append_nil]
  rfl

theorem unnoted (s : ExceptT Failure (StateM World) α) : Records w (unnoted s) s [] := fun journal => by
  rw [List.append_nil]
  rfl

theorem noted (step : Stage) (s : ExceptT Failure (StateM World) α) :
    Records w (noted step s) s [(step, failure? (ends s w).1)] := fun _ => rfl

theorem bind_ok {k : α → Journaled β} {k' : α → ExceptT Failure (StateM World) β} {a : α}
    (h : Records w t s made) (hs : ends s w = (.ok a, v)) (hk : Records v (k a) (k' a) made') :
    Records w (t >>= k) (s >>= k') (made ++ made') := fun journal => by
  rw [outcome_bind, h journal, Session.ends_bind_ok hs, hs, ← List.append_assoc]
  exact hk (journal ++ made)

theorem bind_error {k : α → Journaled β} {k' : α → ExceptT Failure (StateM World) β} {f : Failure}
    (h : Records w t s made) (hs : ends s w = (.error f, v)) : Records w (t >>= k) (s >>= k') made := fun journal => by
  rw [outcome_bind, h journal, Session.ends_bind_error hs, hs]

theorem attempt (h : Records w t s made) :
    Records w (Execution.attempt t) (Execution.attempt s) made := fun journal => by
  rw [outcome_attempt, h journal, Session.ends_execution_attempt]

/-- What follows a call in every case. -/
theorem andFinally {t' : Journaled Unit} {s' : ExceptT Failure (StateM World) Unit} (h : Records w t s made)
    (h' : Records (ends s w).2 t' s' made') :
    Records w (Execution.andFinally t t') (Execution.andFinally s s') (made ++ made') := by
  unfold Execution.andFinally
  refine h.attempt.bind_ok (Session.ends_execution_attempt s w) ?_
  have hsettled (v : World) : Records v (Execution.settle (ends s w).1 : Journaled α)
      (Execution.settle (ends s w).1) [] := by
    cases (ends s w).1 with
    | ok a => exact .pure a
    | error f => exact .throw f
  rcases hs' : ends s' (ends s w).2 with ⟨f | a, v⟩
  · exact h'.bind_error hs'
  · rw [← List.append_nil made']
    exact h'.bind_ok hs' (hsettled v)

end Records

/-- From the world `w` on, the journaled call ends as the call itself does, and it enters these steps until
the first that fails; the call fails as that step does. -/
def Makes (w : World) (steps : List Stage) (t : Journaled α) (s : ExceptT Failure (StateM World) α) : Prop :=
  ∃ made, Records w t s made ∧ UntilFailure steps made (failure? (ends s w).1)

namespace Makes

variable {xs ys : List Stage}

theorem pure (a : α) : Makes w [] (pure a) (pure a) := ⟨[], .pure a, .done⟩

theorem noted (step : Stage) (s : ExceptT Failure (StateM World) α) : Makes w [step] (noted step s) s := by
  refine ⟨_, .noted step s, ?_⟩
  cases (ends s w).1 with
  | ok a => exact .passed .done
  | error f => exact .failed

theorem bind {k : α → Journaled β} {k' : α → ExceptT Failure (StateM World) β} (h : Makes w xs t s)
    (hk : ∀ a v, Makes v ys (k a) (k' a)) : Makes w (xs ++ ys) (t >>= k) (s >>= k') := by
  obtain ⟨made, hmade, huntil⟩ := h
  rcases hs : ends s w with ⟨f | a, v⟩
  · rw [hs] at huntil
    refine ⟨made, hmade.bind_error hs, ?_⟩
    rw [Session.ends_bind_error hs]
    exact huntil.append_failed ys
  · rw [hs] at huntil
    obtain ⟨made', hmade', huntil'⟩ := hk a v
    refine ⟨made ++ made', hmade.bind_ok hs hmade', ?_⟩
    rw [Session.ends_bind_ok hs]
    exact huntil.append huntil'

end Makes

/-- What is entered between two worlds relates them: nothing, where nothing happens, and from one call to the next what
both enter. -/
class Graded (R : List Made → World → World → Prop) : Prop where
  refl : ∀ w, R [] w w
  trans : ∀ {made made' : List Made} {u v w : World}, R made u v → R made' v w → R (made ++ made') u w

/-- From every world on, the journaled call ends as the call itself does, and what it enters relates the world that it
leaves to the one that it began in. -/
def Keeps (R : List Made → World → World → Prop) (t : Journaled α) (s : ExceptT Failure (StateM World) α) : Prop :=
  ∀ w, ∃ made, Records w t s made ∧ R made w (ends s w).2

namespace Keeps

variable {R : List Made → World → World → Prop}

theorem unnoted {s : ExceptT Failure (StateM World) α} (h : ∀ w, R [] w (ends s w).2) : Keeps R (unnoted s) s :=
  fun w => ⟨[], .unnoted s, h w⟩

theorem noted {step : Stage} {s : ExceptT Failure (StateM World) α}
    (h : ∀ w, R [(step, failure? (ends s w).1)] w (ends s w).2) : Keeps R (noted step s) s :=
  fun w => ⟨_, .noted step s, h w⟩

theorem attempt (h : Keeps R t s) : Keeps R (Execution.attempt t) (Execution.attempt s) := by
  intro w
  obtain ⟨made, hmade, hkept⟩ := h w
  refine ⟨made, hmade.attempt, ?_⟩
  rw [Session.ends_execution_attempt]
  exact hkept

theorem ite {c : Prop} [Decidable c] {t' : Journaled α} {s' : ExceptT Failure (StateM World) α} (h : Keeps R t s)
    (h' : Keeps R t' s') : Keeps R (if c then t else t') (if c then s else s') := by
  split
  · exact h
  · exact h'

variable [Graded R]

theorem pure (a : α) : Keeps R (pure a) (pure a) := fun w => ⟨[], .pure a, Graded.refl w⟩

theorem throw (f : Failure) : Keeps R (throw f : Journaled α) (throw f) := fun w => ⟨[], .throw f, Graded.refl w⟩

theorem bind {k : α → Journaled β} {k' : α → ExceptT Failure (StateM World) β} (h : Keeps R t s)
    (hk : ∀ a, Keeps R (k a) (k' a)) : Keeps R (t >>= k) (s >>= k') := by
  intro w
  obtain ⟨made, hmade, hkept⟩ := h w
  rcases hs : ends s w with ⟨f | a, v⟩
  all_goals rw [hs] at hkept
  · refine ⟨made, hmade.bind_error hs, ?_⟩
    rw [Session.ends_bind_error hs]
    exact hkept
  · obtain ⟨made', hmade', hkept'⟩ := hk a v
    refine ⟨made ++ made', hmade.bind_ok hs hmade', ?_⟩
    rw [Session.ends_bind_ok hs]
    exact Graded.trans hkept hkept'

/-- A step that is made only when a test holds, and what follows it. -/
theorem guarded {c : Prop} [Decidable c] {t : Journaled PUnit} {s : ExceptT Failure (StateM World) PUnit}
    {k : PUnit → Journaled α} {k' : PUnit → ExceptT Failure (StateM World) α} (h : Keeps R t s)
    (hk : Keeps R (k ⟨⟩) (k' ⟨⟩)) : Keeps R (if c then t >>= k else k ⟨⟩) (if c then s >>= k' else k' ⟨⟩) := by
  split
  · exact h.bind fun _ => hk
  · exact hk

theorem andFinally {t' : Journaled Unit} {s' : ExceptT Failure (StateM World) Unit} (h : Keeps R t s)
    (h' : Keeps R t' s') : Keeps R (Execution.andFinally t t') (Execution.andFinally s s') := by
  refine h.attempt.bind fun x => h'.bind fun _ => ?_
  cases x with
  | ok a => exact pure a
  | error f => exact throw f

end Keeps

/-- From every world on, the journaled call ends as the call itself does, and the step is not entered. -/
abbrev Avoids (step : Stage) : Journaled α → ExceptT Failure (StateM World) α → Prop :=
  Keeps fun made _ _ => step ∉ made.map Prod.fst

instance (step : Stage) : Graded fun made _ _ => step ∉ made.map Prod.fst where
  refl _ := List.not_mem_nil
  trans h h' := by
    rw [List.map_append, List.mem_append, not_or]
    exact ⟨h, h'⟩

namespace Avoids

variable {step : Stage}

theorem noted {other : Stage} (h : step ≠ other) (s : ExceptT Failure (StateM World) α) :
    Avoids step (noted other s) s :=
  Keeps.noted fun _ => by simpa using h

/-- What follows a call in every case is entered last. -/
theorem andFinally (h : Avoids step t s) (after : ExceptT Failure (StateM World) Unit) (w : World) : ∃ made,
    Records w (Execution.andFinally t (Journaled.noted step after)) (Execution.andFinally s after) made ∧
      OnlyLast step made := by
  obtain ⟨earlier, hmade, hstep⟩ := h w
  exact ⟨_, hmade.andFinally (.noted step after), earlier, _, rfl, hstep⟩

end Avoids

end Journaled

/-! ## The course of a statement -/

namespace Execution

open Journaled (Records Makes)

variable {α β : Type} {w : World} {ops : RunnerOps (ExceptT Failure (StateM World))}
  {note : Failure → ExceptT Failure (StateM World) Unit} {steps : Steps (ExceptT Failure (StateM World)) α β}

/-- The steps between the start and the end of a statement, with the commit of what was started for them. -/
def inner (started : Bool) : List Stage :=
  [.before, .query, .result, .after] ++ if started then [.commit] else []

/-- What a statement makes: it fails to start, or it makes its steps until one fails, and then it rolls back
what it has started. -/
inductive Course (starts : Bool) : List Made → Prop
  | refused {f : Failure} (h : starts = true) : Course starts [(.start, some f)]
  | ran {made : List Made} {failure undone : Option Failure} (h : UntilFailure (inner starts) made failure) :
    Course starts ((if starts then [(.start, none)] else []) ++
      (made ++ if starts ∧ failure.isSome then [(.rollback, undone)] else []))

theorem makes_run : Makes w [.before, .query, .result, .after] steps.journaled.run steps.run := by
  refine (Makes.noted .before steps.before).bind fun _ _ => ?_
  refine (Makes.noted .query steps.query).bind fun answer _ => ?_
  refine (Makes.noted .result (steps.result answer)).bind fun result _ => ?_
  exact (Makes.noted .after steps.after).bind fun _ _ => .pure result

theorem makes_body (started : Bool) :
    Makes w (inner started) (body ops.journaled steps.journaled started) (body ops steps started) := by
  refine makes_run.bind fun result _ => ?_
  cases started with
  | true => exact (Makes.noted .commit ops.commit).bind fun _ _ => .pure result
  | false => exact .pure result

theorem records_tryRollback : Records w (tryRollback ops.journaled fun f => Journaled.unnoted (note f))
    (tryRollback ops note) [(.rollback, failure? (ends ops.rollback w).1)] := by
  unfold tryRollback
  refine (Records.noted .rollback ops.rollback).attempt.bind_ok
    (Session.ends_execution_attempt ops.rollback w) ?_
  cases (ends ops.rollback w).1 with
  | ok a => exact .pure _
  | error f => exact .unnoted (note f)

section
variable (w ops note steps)

/-- Rolling back changes nothing about how the steps ended, as long as what is noted of it is no failure. -/
theorem result_bodyOrRollback (hnote : ∀ f v, (ends (note f) v).1 = .ok ⟨⟩) (started : Bool) :
    (ends (bodyOrRollback ops note steps started) w).1 = (ends (body ops steps started) w).1 := by
  unfold bodyOrRollback
  rw [Session.ends_bind_ok (Session.ends_execution_attempt (body ops steps started) w)]
  rcases ends (body ops steps started) w with ⟨f | result, v⟩
  · cases started with
    | false => rfl
    | true =>
      have hundo : ends (tryRollback ops note) v = (.ok ⟨⟩, (ends (tryRollback ops note) v).2) := by
        refine Session.ends_eq_of_result ?_
        unfold tryRollback
        rw [Session.ends_bind_ok (Session.ends_execution_attempt ops.rollback v)]
        cases (ends ops.rollback v).1 with
        | ok a => rfl
        | error g => exact hnote g _
      show (ends (tryRollback ops note >>= fun _ => throw f : ExceptT Failure (StateM World) β) v).1 = .error f
      rw [Session.ends_bind_ok hundo]
      rfl
  · rfl

/-- The steps are made until one fails, and then what was started is rolled back. -/
theorem records_bodyOrRollback (started : Bool) : ∃ made undone,
    UntilFailure (inner started) made (failure? (ends (body ops steps started) w).1) ∧
    Records w (bodyOrRollback ops.journaled (fun f => Journaled.unnoted (note f)) steps.journaled started)
      (bodyOrRollback ops note steps started)
      (made ++
        if started ∧ (failure? (ends (body ops steps started) w).1).isSome then [(.rollback, undone)] else []) := by
  have hmakes : Makes w (inner started) (body ops.journaled steps.journaled started) (body ops steps started) :=
    makes_body started
  obtain ⟨made, hmade, huntil⟩ := hmakes
  unfold bodyOrRollback
  have hattempt := Session.ends_execution_attempt (body ops steps started) w
  rcases hbody : ends (body ops steps started) w with ⟨f | result, v⟩
  · rw [hbody] at hattempt huntil
    refine ⟨made, failure? (ends ops.rollback v).1, huntil, hmade.attempt.bind_ok hattempt ?_⟩
    cases started with
    | false => exact .throw f
    | true =>
      rw [if_pos ⟨rfl, rfl⟩]
      rcases hundo : ends (tryRollback ops note) v with ⟨g | ⟨⟩, u⟩
      · exact records_tryRollback.bind_error hundo
      · exact records_tryRollback.bind_ok hundo (.throw f)
  · rw [hbody] at hattempt huntil
    refine ⟨made, none, huntil, hmade.attempt.bind_ok hattempt ?_⟩
    rw [if_neg (by simp [failure?])]
    exact .pure result

end

/-- A start that is not wanted, or not needed, is not made. -/
theorem records_startIfWanted_of_not {wanted active : Bool} (hactive : ends ops.isActive w = (.ok active, w))
    (h : (wanted && !active) = false) : ends (startIfWanted ops wanted) w = (.ok false, w) ∧
      Records w (startIfWanted ops.journaled wanted) (startIfWanted ops wanted) [] := by
  unfold startIfWanted
  cases wanted with
  | false => exact ⟨rfl, .pure false⟩
  | true =>
    obtain rfl : active = true := by simpa using h
    rw [if_pos rfl, if_pos rfl]
    refine ⟨?_, (Records.unnoted ops.isActive).bind_ok hactive (.pure false)⟩
    rw [Session.ends_bind_ok hactive]
    rfl

theorem makes_startIfWanted {wanted active : Bool} (hactive : ends ops.isActive w = (.ok active, w))
    (h : (wanted && !active) = true) :
    Makes w [.start] (startIfWanted ops.journaled wanted) (startIfWanted ops wanted) ∧
      ∀ started v, ends (startIfWanted ops wanted) w = (.ok started, v) → started = true := by
  obtain ⟨rfl, hinactive⟩ := Bool.and_eq_true_iff.mp h
  obtain rfl : active = false := by simpa using hinactive
  unfold startIfWanted
  rw [if_pos rfl, if_pos rfl]
  have hstart : Makes w [.start] (ops.journaled.start >>= fun _ => pure true) (ops.start >>= fun _ => pure true) :=
    (Makes.noted .start ops.start).bind fun _ _ => .pure true
  obtain ⟨made, hmade, huntil⟩ := hstart
  refine ⟨⟨made, (Records.unnoted ops.isActive).bind_ok hactive hmade, ?_⟩, fun started v hv => ?_⟩
  · rw [Session.ends_bind_ok hactive]
    exact huntil
  · rw [Session.ends_bind_ok hactive] at hv
    obtain ⟨_, _, -, hv⟩ := Session.of_ends_bind_ok hv
    cases hv
    rfl

/-- The first failure of a course is that of a planned call, if one failed. -/
theorem firstFailure?_ran {starts : Bool} {made : List Made} {failure undone : Option Failure}
    (h : UntilFailure (inner starts) made failure) : firstFailure? ((if starts then [(.start, none)] else []) ++
      (made ++ if starts ∧ failure.isSome then [(.rollback, undone)] else [])) = failure := by
  have hopening : firstFailure? (if starts then [(Stage.start, none)] else []) = none := by cases starts <;> rfl
  rw [firstFailure?_append, firstFailure?_append, hopening, h.firstFailure?_eq]
  cases failure with
  | none => rw [if_neg (by simp)]; rfl
  | some f => rfl

section
variable (steps)

/-- A statement's course, from whether it is to start a transaction. It ends with the first failure in it. -/
theorem records_makeSteps (hnote : ∀ f v, (ends (note f) v).1 = .ok ⟨⟩) {active : Bool}
    (hactive : ends ops.isActive w = (.ok active, w)) (wanted : Bool) :
    ∃ made, Course (wanted && !active) made ∧
      firstFailure? made = failure? (ends (makeSteps ops wanted note steps) w).1 ∧
      Records w (makeSteps ops.journaled wanted (fun f => Journaled.unnoted (note f)) steps.journaled)
        (makeSteps ops wanted note steps) made := by
  unfold makeSteps
  cases hstarts : wanted && !active with
  | false =>
    obtain ⟨hplain, hstart⟩ := records_startIfWanted_of_not hactive hstarts
    obtain ⟨made, undone, huntil, hmade⟩ := records_bodyOrRollback w ops note steps false
    refine ⟨_, .ran huntil, ?_, hstart.bind_ok hplain hmade⟩
    rw [firstFailure?_ran huntil, Session.ends_bind_ok hplain, result_bodyOrRollback w ops note steps hnote]
  | true =>
    obtain ⟨⟨opening, hopening, huntil⟩, hstarted⟩ := makes_startIfWanted hactive hstarts
    rcases hstart : ends (startIfWanted ops wanted) w with ⟨f | started, v⟩
    · rw [hstart] at huntil
      cases huntil with
      | failed =>
        refine ⟨_, .refused rfl, ?_, hopening.bind_error hstart⟩
        rw [Session.ends_bind_error hstart]
        rfl
      | passed h => cases h
    · obtain rfl := hstarted started v hstart
      rw [hstart] at huntil
      cases huntil with
      | passed h =>
        cases h
        obtain ⟨made, undone, huntil, hmade⟩ := records_bodyOrRollback v ops note steps true
        refine ⟨_, .ran huntil, ?_, hopening.bind_ok hstart hmade⟩
        rw [firstFailure?_ran huntil, Session.ends_bind_ok hstart, result_bodyOrRollback v ops note steps hnote]

/-- The course of a statement, after which a runner that was obtained is given back. -/
theorem records_statement (hnote : ∀ f v, (ends (note f) v).1 = .ok ⟨⟩) {active : Bool}
    (hactive : ends ops.isActive w = (.ok active, w)) (wanted obtained : Bool) :
    ∃ made, Course (wanted && !active) made ∧
      firstFailure? made = failure? (ends (makeSteps ops wanted note steps) w).1 ∧
      Records w (statement ops.journaled wanted obtained (fun f => Journaled.unnoted (note f)) steps.journaled)
        (statement ops wanted obtained note steps) (made ++ if obtained then
          [(.release, failure? (ends ops.release (ends (makeSteps ops wanted note steps) w).2).1)] else []) := by
  obtain ⟨made, hcourse, hfirst, hmade⟩ := records_makeSteps steps hnote hactive wanted
  refine ⟨made, hcourse, hfirst, ?_⟩
  unfold statement
  cases obtained with
  | false => exact hmade.andFinally (.pure _)
  | true => exact hmade.andFinally (.noted .release ops.release)

end

/-! ## What a statement keeps -/

section
variable {R : List Made → World → World → Prop} [Journaled.Graded R]

/-- A statement keeps what each of its calls keeps. -/
theorem keeps_statement (hactive : Journaled.Keeps R ops.journaled.isActive ops.isActive)
    (hstart : Journaled.Keeps R ops.journaled.start ops.start)
    (hcommit : Journaled.Keeps R ops.journaled.commit ops.commit)
    (hrollback : Journaled.Keeps R ops.journaled.rollback ops.rollback)
    (hrelease : Journaled.Keeps R ops.journaled.release ops.release)
    (hsteps : Journaled.Keeps R steps.journaled.run steps.run)
    (hnote : ∀ f, Journaled.Keeps R (Journaled.unnoted (note f)) (note f)) (wanted obtained : Bool) :
    Journaled.Keeps R
      (statement ops.journaled wanted obtained (fun f => Journaled.unnoted (note f)) steps.journaled)
      (statement ops wanted obtained note steps) := by
  have hopening : Journaled.Keeps R (startIfWanted ops.journaled wanted) (startIfWanted ops wanted) :=
    .ite (hactive.bind fun _ => .ite (.pure false) (hstart.bind fun _ => .pure true)) (.pure false)
  have hbody (started : Bool) : Journaled.Keeps R (body ops.journaled steps.journaled started) (body ops steps started) :=
    hsteps.bind fun result => hcommit.guarded (.pure result)
  have hundo : Journaled.Keeps R (tryRollback ops.journaled fun f => Journaled.unnoted (note f))
      (tryRollback ops note) := by
    refine hrollback.attempt.bind fun x => ?_
    cases x with
    | ok a => exact .pure a
    | error f => exact hnote f
  refine .andFinally (hopening.bind fun started => (hbody started).attempt.bind fun x => ?_)
    (.ite hrelease (.pure PUnit.unit))
  cases x with
  | ok result => exact .pure result
  | error f => exact hundo.guarded (.throw f)

end

/-! ## The course of a block -/

/-- A block inside a transaction does not give the runner back before it ends. -/
theorem avoids_runBlock (ops : RunnerOps (ExceptT Failure (StateM World)))
    (block : ExceptT Failure (StateM World) α) :
    Journaled.Avoids .release (runBlock ops.journaled (Journaled.unnoted block)) (runBlock ops block) := by
  have hunnoted {β : Type} (s : ExceptT Failure (StateM World) β) : Journaled.Avoids .release (Journaled.unnoted s) s :=
    .unnoted fun _ => List.not_mem_nil
  have hstart : Journaled.Avoids .release ops.journaled.start ops.start := .noted (by decide) ops.start
  have hactive : Journaled.Avoids .release ops.journaled.isActive ops.isActive := hunnoted ops.isActive
  have hcommit : Journaled.Avoids .release ops.journaled.commit ops.commit := .noted (by decide) ops.commit
  have hrollback : Journaled.Avoids .release ops.journaled.rollback ops.rollback := .noted (by decide) ops.rollback
  refine hstart.bind fun _ => (hunnoted block).attempt.bind fun result => ?_
  cases result with
  | ok a => exact hactive.bind fun _ => hcommit.guarded (.pure a)
  | error f => exact hactive.bind fun _ => hrollback.guarded (.throw f)

end Execution

end SqlWeave
