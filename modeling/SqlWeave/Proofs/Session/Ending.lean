import SqlWeave.Execution
import SqlWeave.Session.World

/-!
# How calls end

`Session.ends` is the result of a call together with the world that it leaves, and the equations here
say what it is for each way to build a call. What a whole call does is proved by rewriting with them, part
by part.
-/

namespace SqlWeave.Session

variable {α β γ δ : Type}

/-- How a call ends, and the world that it leaves. -/
def ends (s : Session α) (w : World) : Result α × World := StateT.run (ExceptT.run s) w

/-! ## The ways to build a call -/

@[simp] theorem ends_pure (a : α) (w : World) : ends (pure a) w = (.ok a, w) := rfl

@[simp] theorem ends_throw (f : Failure) (w : World) :
    ends (throw f : Session α) w = (.error f, w) := rfl

@[simp] theorem ends_get (w : World) : ends get w = (.ok w, w) := rfl

@[simp] theorem ends_emit (e : Event) (w : World) :
    ends (emit e) w = (.ok ⟨⟩, { w with trace := w.trace ++ [e] }) := rfl

@[simp] theorem ends_log (level : LogLevel) (logger message : String) (extras : Record)
    (hasFailure : Bool) (w : World) :
    ends (log level logger message extras hasFailure) w =
      (.ok ⟨⟩, { w with logs := w.logs ++ [⟨level, logger, message, extras, hasFailure⟩] }) := rfl

@[simp] theorem ends_runner (r : Nat) (w : World) :
    ends (runner r) w = (.ok (w.runners.get r), w) := rfl

theorem ends_sourceField (w : World) : ends sourceField w = (.ok ("data_source", w.sourceName), w) := rfl

@[simp] theorem ends_changeRunner (r : Nat) (f : Runner → Runner) (w : World) :
    ends (changeRunner r f) w = (.ok ⟨⟩, w.changeRunner r f) := rfl

@[simp] theorem ends_ofResult_ok (a : α) (w : World) : ends (ofResult (.ok a)) w = (.ok a, w) := rfl

/-- A call ends with its result. -/
theorem ends_eq_of_result {s : Session α} {w : World} {r : Result α} (h : (ends s w).1 = r) :
    ends s w = (r, (ends s w).2) := by
  rw [← h]

theorem ends_bind (s : Session α) (k : α → Session β) (w : World) :
    ends (s >>= k) w =
      match ends s w with
      | (.ok a, w') => ends (k a) w'
      | (.error f, w') => (.error f, w') := by
  simp only [ends, ExceptT.run_bind, StateT.run_bind]
  rcases h : StateT.run (ExceptT.run s) w with ⟨_ | _, _⟩ <;> rfl

/-- What follows a call that ended well. -/
theorem ends_bind_ok {s : Session α} {k : α → Session β} {a : α} {w w' : World}
    (h : ends s w = (.ok a, w')) : ends (s >>= k) w = ends (k a) w' := by
  rw [ends_bind, h]

theorem ends_bind_error {s : Session α} {k : α → Session β} {f : Failure} {w w' : World}
    (h : ends s w = (.error f, w')) : ends (s >>= k) w = (.error f, w') := by
  rw [ends_bind, h]

/-- A sequence that ended well went through both of its parts. -/
theorem of_ends_bind_ok {s : Session α} {k : α → Session β} {b : β} {w w' : World}
    (h : ends (s >>= k) w = (.ok b, w')) :
    ∃ a v, ends s w = (.ok a, v) ∧ ends (k a) v = (.ok b, w') := by
  rw [ends_bind] at h
  rcases hs : ends s w with ⟨_ | a, v⟩
  · simp [hs] at h
  · simp only [hs] at h
    exact ⟨a, v, rfl, h⟩

/-- What holds however a sequence ends: its first part fails, or the rest is made from where that ended. -/
theorem bind_elim {P : Result β × World → Prop} {s : Session α} {k : α → Session β} {w : World}
    (herror : ∀ f v, ends s w = (.error f, v) → P (.error f, v))
    (hok : ∀ a v, ends s w = (.ok a, v) → P (ends (k a) v)) : P (ends (s >>= k) w) := by
  rw [ends_bind]
  rcases h : ends s w with ⟨f | a, v⟩
  · exact herror f v h
  · exact hok a v h

/-- A call that raises fails with what it raises. -/
theorem ends_raise (f : Failure) (w : World) : ∃ v, ends (raise f : Session α) w = (.error f, v) := by
  unfold raise noteProblem
  split
  · exact ⟨_, ends_bind_ok (ends_log ..)⟩
  · exact ⟨w, rfl⟩

/-- A call whose answer is not used leaves the same world. -/
theorem world_discard (s : Session α) (w : World) : (ends (discard s) w).2 = (ends s w).2 := by
  show (ends (s >>= fun _ => pure ()) w).2 = _
  rw [ends_bind]
  rcases ends s w with ⟨f | a, v⟩ <;> rfl

/-- What ends well has passed the tests before it. -/
theorem of_ends_unless_ok {c : Prop} [Decidable c] {f : Failure} {k : PUnit → Session α} {a : α}
    {w v : World} (h : ends (if c then raise f >>= k else k ⟨⟩) w = (.ok a, v)) :
    ¬ c ∧ ends (k ⟨⟩) w = (.ok a, v) := by
  by_cases hc : c
  · obtain ⟨u, hu⟩ := ends_raise (α := PUnit) f w
    rw [if_pos hc, ends_bind_error hu] at h
    cases h
  · rw [if_neg hc] at h
    exact ⟨hc, h⟩

/-- What holds however a sequence ends whose first part is made only when a test holds. -/
theorem guarded_elim {P : Result α × World → Prop} {c : Prop} [Decidable c] {s : Session PUnit}
    {k : PUnit → Session α} {w : World} (hmade : c → P (ends (s >>= k) w)) (hskipped : ¬ c → P (ends (k ⟨⟩) w)) :
    P (ends (if c then s >>= k else k ⟨⟩) w) := by
  by_cases hc : c
  · rw [if_pos hc]
    exact hmade hc
  · rw [if_neg hc]
    exact hskipped hc

/-- What holds however a test before a call ends. -/
theorem unless_elim {P : Result α × World → Prop} {c : Prop} [Decidable c] {f : Failure} {k : PUnit → Session α}
    {w : World} (hfail : c → ∀ v, ends (raise f : Session PUnit) w = (.error f, v) → P (.error f, v))
    (hpass : ¬ c → P (ends (k ⟨⟩) w)) : P (ends (if c then raise f >>= k else k ⟨⟩) w) := by
  refine guarded_elim (P := P) (fun hc => ?_) hpass
  obtain ⟨v, hv⟩ := ends_raise (α := PUnit) f w
  rw [ends_bind_error hv]
  exact hfail hc v hv

theorem ends_tryCatch (s : Session α) (handle : Failure → Session α) (w : World) :
    ends (tryCatch s handle) w =
      match ends s w with
      | (.ok a, w') => (.ok a, w')
      | (.error f, w') => ends (handle f) w' := by
  simp only [ends, tryCatch, tryCatchThe, MonadExceptOf.tryCatch, ExceptT.tryCatch]
  have hbind (k : Result α → StateM World (Result α)) : StateT.run (ExceptT.run s >>= k) w =
      StateT.run (k (StateT.run (ExceptT.run s) w).1) (StateT.run (ExceptT.run s) w).2 := rfl
  refine (hbind _).trans ?_
  rcases StateT.run (ExceptT.run s) w with ⟨f | a, v⟩
  · rfl
  · rfl

@[simp] theorem ends_attempt (s : Session α) (w : World) :
    ends (attempt s) w = (.ok (ends s w).1, (ends s w).2) := by
  rw [attempt, ends_tryCatch, ends_bind]
  rcases ends s w with ⟨_ | _, _⟩ <;> rfl

@[simp] theorem ends_ofExcept (r : Result α) (w : World) :
    ends (MonadExcept.ofExcept r : Session α) w = (r, w) := by
  cases r <;> rfl

theorem ends_andFinally (s : Session α) (after : Session Unit) (w : World) :
    ends (andFinally s after) w =
      match ends after (ends s w).2 with
      | (.ok _, w') => ((ends s w).1, w')
      | (.error f, w') => (.error f, w') := by
  unfold andFinally
  rw [ends_bind_ok (ends_attempt s w), ends_bind]
  rcases ends after (ends s w).2 with ⟨_ | _, _⟩ <;> simp

/-- How a step ends that only passes or fails. -/
def passes : Option Failure → Result Unit
  | some f => .error f
  | none => .ok ()

/-- How a call ends when one that follows it ends with `failure`, or with none. -/
def outlived (failure : Option Failure) (result : Result α) : Result α :=
  match failure with
  | some g => .error g
  | none => result

/-- A failure is outlived by a failure alone. -/
theorem outlived_error (failure : Option Failure) (f : Failure) :
    ∃ g, outlived failure (.error f : Result α) = .error g := by
  cases failure with
  | some g => exact ⟨g, rfl⟩
  | none => exact ⟨f, rfl⟩

/-- What ends well was not outlived by a failure. -/
theorem ok_of_outlived {failure : Option Failure} {result : Result α} {a : α} (h : outlived failure result = .ok a) :
    result = .ok a := by
  cases failure with
  | some g => cases h
  | none => exact h

/-! ## The order of an execution -/

theorem ends_execution_attempt (s : Session α) (w : World) :
    ends (Execution.attempt s) w = (.ok (ends s w).1, (ends s w).2) :=
  ends_attempt s w

/-- What follows in every case hides how a call ended only when it fails itself. -/
theorem ends_execution_andFinally (s : Session α) (after : Session Unit) (w : World) :
    ends (Execution.andFinally s after) w =
      match ends after (ends s w).2 with
      | (.ok _, w') => ((ends s w).1, w')
      | (.error f, w') => (.error f, w') := by
  unfold Execution.andFinally
  rw [ends_bind_ok (ends_execution_attempt s w), ends_bind]
  rcases ends after (ends s w).2 with ⟨f | a, v⟩
  · rfl
  · rcases (ends s w).1 with f | a <;> rfl

theorem ends_andFinally_eq (s : Session α) (after : Session Unit) (w : World) :
    ends (andFinally s after) w = ends (Execution.andFinally s after) w := by
  rw [ends_andFinally, ends_execution_andFinally]

/-- Where a call leaves the world that is followed by another one in every case. -/
theorem world_andFinally (s : Session α) (after : Session Unit) (w : World) :
    (ends (Execution.andFinally s after) w).2 = (ends after (ends s w).2).2 := by
  rw [ends_execution_andFinally]
  rcases ends after (ends s w).2 with ⟨f | a, v⟩ <;> rfl

/-- It ends as the first one does, if what follows goes well. -/
theorem result_andFinally_of_ok {s : Session α} {after : Session Unit} {w : World}
    (h : (ends after (ends s w).2).1 = .ok ⟨⟩) : (ends (Execution.andFinally s after) w).1 = (ends s w).1 := by
  rw [ends_execution_andFinally, ends_eq_of_result h]

theorem result_andFinally_of_error {s : Session α} {after : Session Unit} {w : World} {f : Failure}
    (h : (ends after (ends s w).2).1 = .error f) : (ends (Execution.andFinally s after) w).1 = .error f := by
  rw [ends_execution_andFinally, ends_eq_of_result h]

end SqlWeave.Session
