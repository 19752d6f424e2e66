import SqlWeave.Proofs.Session.Attending
import SqlWeave.Proofs.Session.FirstFailure

/-!
# Calls that obtain a runner

A call that runs a statement is refused before it comes to a runner, or makes its calls on the runner that it was
given, or obtains one for itself: `StatementCall.borrows`, `StatementCall.obtains`. The calls that it makes on the
runner are entered in a journal. On one that was given there is no release among them; on one that it has obtained the
release is the last of them, and there is no other.
-/

namespace SqlWeave

open Session Execution World

variable {α β : Type} {r : Nat} {u v w w₁ : World}

/-! ## New runners -/

namespace World

/-- Between the worlds no runner was made or changed, and the backend was not reached. -/
structure Untouched (w v : World) : Prop where
  rest : Noted w v
  trace : ∃ events, v.trace = w.trace ++ events ∧ ∀ e ∈ events, e.isReport = true

theorem Untouched.runners (h : Untouched w v) : v.runners = w.runners := (congrArg World.runners h.rest :)

instance : IsPreorder World Untouched where
  refl _ := ⟨rfl, [], (List.append_nil _).symm, by simp⟩
  trans _ _ _ h h' := ⟨trans_of Noted h.rest h'.rest, told_trans h.trace h'.trace⟩

instance : Reports Untouched where
  logged _ _ := ⟨rfl, [], (List.append_nil _).symm, by simp⟩
  reported _ e he := ⟨rfl, [e], rfl, by simpa using he⟩

/-- Between the worlds runner `r` was made, and nothing else happened. -/
structure Adds (r : Nat) (w v : World) : Prop where
  rest : v = { w with runners := v.runners }
  number : r = w.runners.next
  next : v.runners.next = r + 1
  fresh : ∃ mode, v.runners.get r = { mode }
  others : ∀ i, i ≠ r → v.runners.get i = w.runners.get i

namespace Adds

theorem dialect (h : Adds r w v) : v.dialect = w.dialect := (congrArg World.dialect h.rest :)

theorem trace (h : Adds r w v) : v.trace = w.trace := (congrArg World.trace h.rest :)

theorem backend (h : Adds r w v) : v.backend = w.backend := (congrArg World.backend h.rest :)

theorem sound (h : Adds r w v) : (v.runners.get r).Sound := by
  obtain ⟨mode, hmode⟩ := h.fresh
  rw [hmode]
  exact Runner.sound_new mode

end Adds

end World

namespace Session

/-- The call fails, and asks nothing of a runner before. -/
def Refuses (s : Session α) (w : World) : Prop := ∃ f v, Untouched w v ∧ ends s w = (.error f, v)

theorem Refuses.bind {s : Session α} (h : Refuses s w) (k : α → Session β) : Refuses (s >>= k) w := by
  obtain ⟨f, v, hv, he⟩ := h
  exact ⟨f, v, hv, ends_bind_error he⟩

theorem adds_addRunner (mode : Value) (w : World) : ∃ v, ends (addRunner mode) w = (.ok w.runners.next, v) ∧
    Adds w.runners.next w v := by
  refine ⟨_, rfl, rfl, rfl, rfl, ⟨mode, ?_⟩, fun i hi => ?_⟩
  · exact (Store.get_add w.runners { mode } _).trans (if_pos rfl)
  · exact (Store.get_add w.runners { mode } i).trans (if_neg hi.symm)

/-- Asking a server for a runner is refused, or gives a new one. -/
theorem createRunner_server (mode : Value) (hw : w.dialect.isNetwork = true) :
    Refuses (createRunner mode) w ∨ ∃ r v, Adds r w v ∧ ends (createRunner mode) w = (.ok r, v) := by
  let P (p : Result Nat × World) : Prop :=
    (∃ f v, Untouched w v ∧ p = (.error f, v)) ∨ ∃ r v, Adds r w v ∧ p = (.ok r, v)
  have hraise {f : Failure} (v : World) (hv : ends (raise f : Session PUnit) w = (.error f, v)) : P (.error f, v) :=
    .inl ⟨f, v, (moves_raise f).of_ends hv, rfl⟩
  show P (ends (createRunner mode) w)
  unfold createRunner driverRunner
  rw [ends_bind_ok (ends_get w)]
  refine unless_elim (P := P) (fun _ => hraise) fun _ => ?_
  rw [ends_bind_ok (ends_get w), if_pos hw]
  refine unless_elim (P := P) (fun _ => hraise) fun _ => ?_
  obtain ⟨v, hv, hadds⟩ := adds_addRunner mode w
  exact .inr ⟨_, v, hadds, hv⟩

/-- A runner that a server gives is a new one. -/
theorem adds_of_createRunner {mode : Value} (hw : w.dialect.isNetwork = true)
    (h : ends (createRunner mode) w = (.ok r, v)) : Adds r w v := by
  rcases createRunner_server mode hw with ⟨f, u, -, he⟩ | ⟨i, u, hadds, he⟩
  all_goals
    rw [h] at he
    cases he
  exact hadds

/-- A server's runner that is given back is released, and holds no connection. -/
theorem released_release (hw : w.dialect.isNetwork = true) (hsound : (w.runners.get r).Sound) :
    ((ends (release r) w).2.runners.get r).released = true ∧ (ends (release r) w).2.held r = [] := by
  have hclosed := (detaches_closeConnection r (w.changeRunner r fun x => { x with released := true })).runner
  unfold release
  rw [ends_bind_ok (ends_get w)]
  cases hd : w.dialect
  case sqlite => rw [hd] at hw; cases hw
  case sqljs => rw [hd] at hw; cases hw
  all_goals
    dsimp only
    rw [ends_bind_ok (ends_runner r w)]
    cases hreleased : (w.runners.get r).released with
    | true =>
      refine ⟨hreleased, ?_⟩
      show (w.runners.get r).connection.toList = []
      rw [(hsound.released hreleased).1]
      rfl
    | false =>
      show ((ends (closeConnection r) _).2.runners.get r).released = true ∧
        ((ends (closeConnection r) _).2.runners.get r).connection.toList = []
      rw [hclosed, changeRunner_get_self]
      exact ⟨rfl, rfl⟩

end Session

/-! ## Calls that run statements -/

/-- A builder that counts the rows of another one. -/
def Builder.counting (b : Builder Nat) : Builder Nat :=
  let copy := b.convert b.kind
  { copy with
    draft := { copy.draft with
      selects := [{ expression := .text "COUNT(*)", name := .text "cnt" }]
      orderBys := []
      limit := none
      offset := none } }

/-- The runner that is found for a builder is the one that was given, or it is made. -/
theorem World.ComesToRun.found {b : Builder Nat} {given : Value}
    {steps : Steps (ExceptT Failure (StateM World)) QueryOutcome Outcome} (h : w.ComesToRun b given r w₁ steps) :
    (given.handle? = some (.runner r) ∧ w₁ = w) ∨ (given.truth = false ∧ ends createRunner w = (.ok r, w₁)) := by
  obtain ⟨-, -, -, o, -, -, hobtain, ho, -⟩ := h
  unfold obtainRunner at hobtain
  cases htruth : given.truth with
  | true =>
    rw [htruth, if_pos rfl] at hobtain
    cases hobtain
    exact .inl ⟨ho, rfl⟩
  | false =>
    rw [htruth, if_neg Bool.false_ne_true] at hobtain
    obtain ⟨i, x, hi, hobject⟩ := of_ends_bind_ok hobtain
    cases hobject
    cases ho
    exact .inr ⟨rfl, hi⟩

namespace World

/-- The worlds differ in no more than the log. -/
def Logged (w v : World) : Prop := v = { w with logs := v.logs }

instance : IsPreorder World Logged where
  refl _ := rfl
  trans _ _ _ h h' := by
    unfold Logged at h h' ⊢
    rw [h', h]

end World

theorem Session.logs_ofResult (x : Result α) : Moves Logged (ofResult x) := by
  cases x with
  | ok a => exact .pure a
  | error f =>
    have hnote : Moves Logged (noteProblem f) := by
      unfold noteProblem
      split
      · exact .modify fun _ => rfl
      · exact .pure _
    exact hnote.bind fun _ => .throw f

namespace StatementCall

/-- The builder that a call executes. -/
def builder? : StatementCall → Option (Builder Nat)
  | .execute b _ | .rows b _ => some b
  | .count b _ => some b.counting
  | .raw .. => none

/-- Running the raw statement on runner `r` makes these calls: with a journal of them, it ends as it does without. -/
def RunsRaw (sql parameters given : Value) (w : World) (r : Nat) (w₁ : World) (obtained : Bool) (statement : Value)
    (values : List Value) (made : List Made) : Prop :=
  Journaled.outcome (Execution.andFinally (do
      return (← Journaled.noted .query (query r statement (.list values))).records)
    (if obtained then Journaled.noted .release (release r) else pure ())) w₁ [] =
      ((ends (runRaw sql parameters given) w).1, (ends (runRaw sql parameters given) w).2, made)

/-- In world `w` the call comes to run on runner `r`, from `w₁` on, and makes these calls on it. -/
inductive Enters (w : World) (r : Nat) (w₁ : World) (made : List Made) : StatementCall → Prop
  | statement {c : StatementCall} {b : Builder Nat}
      {steps : Steps (ExceptT Failure (StateM World)) QueryOutcome Outcome}
      (hb : c.builder? = some b) (hcomes : w.ComesToRun b c.given r w₁ steps)
      (hby : ExecutesBy b c.given w r w₁ steps made) : Enters w r w₁ made c
  | raw {sql parameters given statement : Value} {values : List Value}
      (hlowered : rawStatement w.dialect sql parameters = .ok (statement, values))
      (hby : RunsRaw sql parameters given w r w₁ (given.handle? ≠ some (.runner r)) statement values made) :
      Enters w r w₁ made (.raw sql parameters given)

/-- What a call makes of the outcome of its builder leaves no more than log records. -/
theorem run_eq {c : StatementCall} {b : Builder Nat} (hb : c.builder? = some b) :
    ∃ k : Outcome → Session Unit, c.run = Session.execute b c.given >>= k ∧ ∀ outcome, Moves Logged (k outcome) := by
  cases c with
  | execute b given =>
    cases hb
    exact ⟨fun _ => pure (), rfl, fun _ => .pure _⟩
  | rows b given =>
    cases hb
    refine ⟨_, bind_assoc .., fun outcome => .bind ?_ fun _ => .pure _⟩
    split
    · exact .pure _
    · exact .pure _
  | count b given =>
    cases hb
    refine ⟨_, (congrArg (· >>= fun _ => pure ()) (bind_assoc ..)).trans (bind_assoc ..), fun outcome => ?_⟩
    refine .bind (.bind ?_ fun rows => ?_) fun _ => .pure _
    · split
      · exact .pure _
      · exact .pure _
    · split
      · exact .pure _
      · exact .pure _
      · split
        · exact logs_ofResult _
        · exact .throw _
  | raw sql parameters given => cases hb

/-- A call ends where its builder does, but for the log, and fails as it does. -/
theorem logged_run {c : StatementCall} {b : Builder Nat} (hb : c.builder? = some b) (w : World) :
    Logged (ends (Session.execute b c.given) w).2 (ends c.run w).2 ∧
      ∀ f v, ends (Session.execute b c.given) w = (.error f, v) → ends c.run w = (.error f, v) := by
  obtain ⟨k, hrun, hk⟩ := run_eq hb
  rw [hrun]
  refine ⟨?_, fun f v h => ends_bind_error h⟩
  rw [ends_bind]
  rcases ends (Session.execute b c.given) w with ⟨f | outcome, v⟩
  · exact refl_of Logged v
  · exact (hk outcome).along v

/-- A call whose builder does not come to run its statement is refused. -/
theorem refuses_of_not_comesToRun (hw : w.dialect.isNetwork = true) {c : StatementCall} {b : Builder Nat}
    (hb : c.builder? = some b) (h : ∀ r w₁ steps, ¬ w.ComesToRun b c.given r w₁ steps) : Refuses c.run w := by
  have hobtain (f : Failure) (v : World) (hv : ends (obtainRunner c.given) w = (.error f, v)) : Untouched w v := by
    unfold obtainRunner at hv
    cases htruth : c.given.truth with
    | true =>
      rw [htruth, if_pos rfl] at hv
      cases hv
    | false =>
      rw [htruth, if_neg Bool.false_ne_true] at hv
      rcases createRunner_server usualMode hw with ⟨g, u, hu, he⟩ | ⟨r, u, -, he⟩
      · rw [ends_bind_error he] at hv
        cases hv
        exact hu
      · rw [ends_bind_ok he] at hv
        cases hv
  obtain ⟨f, v, hv, he⟩ := execute_of_not_comesToRun hobtain h
  exact ⟨f, v, hv, (logged_run hb w).2 f v he⟩

end StatementCall

/-- Runner `r` is used and then given back, and the second world is where that leaves, but for the log. -/
def World.Returns (r : Nat) (w v : World) : Prop :=
  ∃ u, Attends r w u ∧ Manages r w u ∧ Logged (ends (release r) u).2 v

namespace StatementCall

/-- A builder that is given a runner is refused, or makes its calls on it and does not release it. -/
theorem borrows_statement (hw : w.dialect.isNetwork = true) {c : StatementCall} {b : Builder Nat}
    (hb : c.builder? = some b) (hgiven : c.given.handle? = some (.runner r)) :
    Refuses c.run w ∨ ∃ made, c.Enters w r w made ∧ .release ∉ made.map Prod.fst := by
  have htruth : c.given.truth = true := truth_of_handle hgiven
  by_cases hruns : ∃ i w₁ steps, w.ComesToRun b c.given i w₁ steps
  · obtain ⟨i, w₁, steps, hcomes⟩ := hruns
    obtain ⟨made, hcourse, -, hby⟩ := exists_course hcomes
    rcases hcomes.found with ⟨hi, rfl⟩ | ⟨hfalse, -⟩
    · rw [hgiven] at hi
      cases hi
      rw [htruth] at hby
      exact .inr ⟨_, .statement hb hcomes hby, by simpa using hcourse.release_notMem⟩
    · rw [htruth] at hfalse
      cases hfalse
  · exact .inl (refuses_of_not_comesToRun hw hb fun i w₁ steps hcomes => hruns ⟨i, w₁, steps, hcomes⟩)

/-- A builder that is given no runner is refused, or obtains one and gives it back. -/
theorem obtains_statement (hw : w.dialect.isNetwork = true) {c : StatementCall} {b : Builder Nat}
    (hb : c.builder? = some b) (hgiven : ∀ i, c.given.handle? ≠ some (.runner i)) :
    Refuses c.run w ∨ ∃ r w₁ made, ends createRunner w = (.ok r, w₁) ∧ c.Enters w r w₁ made ∧ OnlyLast .release made ∧
      Returns r w₁ (ends c.run w).2 := by
  by_cases hruns : ∃ i w₁ steps, w.ComesToRun b c.given i w₁ steps
  · obtain ⟨r, w₁, steps, hcomes⟩ := hruns
    obtain ⟨made, hcourse, -, hby⟩ := exists_course hcomes
    rcases hcomes.found with ⟨hi, -⟩ | ⟨hfalse, hcreate⟩
    · exact absurd hi (hgiven r)
    have hreturns : Returns r w₁ (ends c.run w).2 := by
      refine ⟨(ends (makesSteps b r steps) w₁).2, ?_, ?_, ?_⟩
      · obtain ⟨payloads, sql, values, -, -, -, -, -, rfl⟩ := hcomes
        exact ((operates_attends r).makeSteps b payloads sql values).along w₁
      · obtain ⟨payloads, sql, values, -, -, -, -, -, rfl⟩ := hcomes
        exact ((operates_manages r).makeSteps b payloads sql values).along w₁
      · have hends : (ends (Session.execute b c.given) w).2 =
            (ends (release r) (ends (makesSteps b r steps) w₁).2).2 := by
          rw [ends_execute hcomes, hfalse]
          exact world_andFinally ..
        rw [← hends]
        exact (logged_run hb w).1
    rw [hfalse] at hby
    exact .inr ⟨r, w₁, _, hcreate, .statement hb hcomes hby, ⟨made, _, rfl, hcourse.release_notMem⟩, hreturns⟩
  · exact .inl (refuses_of_not_comesToRun hw hb fun i w₁ steps hcomes => hruns ⟨i, w₁, steps, hcomes⟩)

/-! ### Raw statements -/

/-- A raw statement is refused, or runs on the runner that was given, or on one that is obtained for it. -/
theorem runRaw_cases (sql parameters given : Value) (w : World) :
    Refuses (runRaw sql parameters given) w ∨
    ∃ statement values, rawStatement w.dialect sql parameters = .ok (statement, values) ∧
      ((∃ r, given.handle? = some (.runner r) ∧ ends (runRaw sql parameters given) w =
        ends (do return (← query r statement (.list values)).records) w) ∨
      ((∀ i, given.handle? ≠ some (.runner i)) ∧
        ends (runRaw sql parameters given) w = ends (runApart statement values) w)) := by
  let P (p : Result (List Record) × World) : Prop := (∃ f v, Untouched w v ∧ p = (.error f, v)) ∨
    ∃ statement values, rawStatement w.dialect sql parameters = .ok (statement, values) ∧
      ((∃ r, given.handle? = some (.runner r) ∧
        p = ends (do return (← query r statement (.list values)).records) w) ∨
      ((∀ i, given.handle? ≠ some (.runner i)) ∧ p = ends (runApart statement values) w))
  show P (ends (runRaw sql parameters given) w)
  unfold runRaw
  rw [ends_bind_ok (ends_get w)]
  refine unless_elim (P := P) (fun _ v hv => .inl ⟨_, v, (moves_raise _).of_ends hv, rfl⟩) fun _ => ?_
  rcases ends_ofResult (rawStatement w.dialect sql parameters) w with
    ⟨⟨statement, values⟩, hlowered, he⟩ | ⟨f, v, -, -, he⟩
  · rw [ends_bind_ok he]
    dsimp only
    cases htruth : given.truth with
    | false =>
      have hgiven (i : Nat) : given.handle? ≠ some (.runner i) := fun hi => by
        rw [truth_of_handle hi] at htruth
        cases htruth
      exact .inr ⟨statement, values, hlowered, .inr ⟨hgiven, rfl⟩⟩
    | true =>
      rw [Bool.not_true, if_neg Bool.false_ne_true]
      split
      case h_1 r hr => exact .inr ⟨statement, values, hlowered, .inl ⟨r, hr, rfl⟩⟩
      case h_2 hsource =>
        have hgiven (i : Nat) : given.handle? ≠ some (.runner i) := fun hi => by
          rw [hsource] at hi
          cases hi
        exact .inr ⟨statement, values, hlowered, .inr ⟨hgiven, rfl⟩⟩
      case h_3 => exact .inl ⟨_, w, refl_of Untouched w, rfl⟩
  · exact .inl ⟨f, v, (moves_ofResult _).of_ends he, ends_bind_error he⟩

theorem avoids_query (r : Nat) (statement : Value) (values : List Value) : Journaled.Avoids .release
    (do return (← Journaled.noted .query (query r statement (.list values))).records)
    (do return (← query r statement (.list values)).records) := by
  have hquery : Journaled.Avoids .release (Journaled.noted .query (query r statement (.list values)))
      (query r statement (.list values)) := .noted (by decide) _
  exact hquery.bind fun answer => .pure answer.records

theorem borrows_raw {sql parameters given : Value} (hgiven : given.handle? = some (.runner r)) :
    Refuses (raw sql parameters given).run w ∨
    ∃ made, (raw sql parameters given).Enters w r w made ∧ .release ∉ made.map Prod.fst := by
  rcases runRaw_cases sql parameters given w with hrefuses | ⟨statement, values, hlowered, hruns⟩
  · exact .inl (hrefuses.bind _)
  rcases hruns with ⟨i, hi, he⟩ | ⟨hno, -⟩
  · rw [hgiven] at hi
    cases hi
    obtain ⟨made, hmade, hrelease⟩ := avoids_query r statement values w
    refine .inr ⟨made ++ [], .raw hlowered ?_, by simpa using hrelease⟩
    unfold RunsRaw
    rw [hgiven, he, decide_eq_false (not_not.mpr rfl), if_neg Bool.false_ne_true]
    refine (hmade.andFinally (.pure ⟨⟩) []).trans ?_
    rw [ends_execution_andFinally]
    rfl
  · exact absurd hgiven (hno r)

theorem obtains_raw (hw : w.dialect.isNetwork = true) {sql parameters given : Value}
    (hgiven : ∀ i, given.handle? ≠ some (.runner i)) :
    Refuses (raw sql parameters given).run w ∨
    ∃ r w₁ made, ends createRunner w = (.ok r, w₁) ∧ (raw sql parameters given).Enters w r w₁ made ∧
      OnlyLast .release made ∧ Returns r w₁ (ends (raw sql parameters given).run w).2 := by
  rcases runRaw_cases sql parameters given w with hrefuses | ⟨statement, values, hlowered, hruns⟩
  · exact .inl (hrefuses.bind _)
  rcases hruns with ⟨r, hr, -⟩ | ⟨-, he⟩
  · exact absurd hr (hgiven r)
  unfold runApart at he
  rcases createRunner_server usualMode hw with ⟨f, v, hv, hcreate⟩ | ⟨r, w₁, -, hcreate⟩
  · exact .inl ⟨f, v, hv, ends_bind_error (he.trans (ends_bind_error hcreate))⟩
  rw [ends_bind_ok hcreate, ends_andFinally_eq] at he
  obtain ⟨made, hmade, hlast⟩ := (avoids_query r statement values).andFinally (release r) w₁
  refine .inr ⟨r, w₁, made, hcreate, .raw hlowered ?_, hlast, (ends (query r statement (.list values)) w₁).2,
    ((operates_attends r).query ..).along w₁, ((operates_manages r).query ..).along w₁, ?_⟩
  · unfold RunsRaw
    rw [he, decide_eq_true (hgiven r), if_pos rfl]
    exact hmade []
  · have hdiscard : (ends (raw sql parameters given).run w).2 = (ends (runRaw sql parameters given) w).2 :=
      world_discard ..
    rw [hdiscard, he, world_andFinally]
    have hquery : (ends (do return (← query r statement (.list values)).records) w₁).2 =
        (ends (query r statement (.list values)) w₁).2 := by
      rw [ends_bind]
      rcases ends (query r statement (.list values)) w₁ with ⟨f | answer, v⟩ <;> rfl
    rw [hquery]
    exact refl_of Logged _

/-! ### All of them -/

/-- A call that is given a runner is refused, or makes its calls on it and does not release it. -/
theorem borrows (hw : w.dialect.isNetwork = true) (c : StatementCall) (hgiven : c.given.handle? = some (.runner r)) :
    Refuses c.run w ∨ ∃ made, c.Enters w r w made ∧ .release ∉ made.map Prod.fst := by
  cases c with
  | execute b given => exact borrows_statement hw (b := b) rfl hgiven
  | rows b given => exact borrows_statement hw (b := b) rfl hgiven
  | count b given => exact borrows_statement hw (b := b.counting) rfl hgiven
  | raw sql parameters given => exact borrows_raw hgiven

/-- A call that is given no runner is refused, or obtains one and gives it back. -/
theorem obtains (hw : w.dialect.isNetwork = true) (c : StatementCall)
    (hgiven : ∀ i, c.given.handle? ≠ some (.runner i)) :
    Refuses c.run w ∨ ∃ r w₁ made, ends createRunner w = (.ok r, w₁) ∧ c.Enters w r w₁ made ∧ OnlyLast .release made ∧
      Returns r w₁ (ends c.run w).2 := by
  cases c with
  | execute b given => exact obtains_statement hw (b := b) rfl hgiven
  | rows b given => exact obtains_statement hw (b := b) rfl hgiven
  | count b given => exact obtains_statement hw (b := b.counting) rfl hgiven
  | raw sql parameters given => exact obtains_raw hw hgiven

end StatementCall

end SqlWeave
