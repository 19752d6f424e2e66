import SqlWeave.Proofs.Session.Moves
import SqlWeave.Session.Execute

/-!
# What running a statement leaves alone

A runner that runs statements takes a connection, gets and loses its mark for the automatic save, and
may keep an image in the storage. Nothing else in the session changes: `World.SameStanding` is the
preorder of these calls. In particular no statement begins or ends an explicit transaction, on its own
runner or on another one.
-/

namespace SqlWeave

/-! ## The standing of a runner -/

/-- A runner without its connection and its mark for the automatic save. -/
def Runner.standing (x : Runner) : Runner := { x with connection := none, dirty := false }

/-- The worlds differ in no more than their surroundings, the storage, and the connections and marks
of their runners. -/
structure World.SameStanding (w v : World) : Prop where
  rest : v = { w with runners := v.runners, hookFaults := v.hookFaults, locks := v.locks, storage := v.storage,
                      backend := v.backend, trace := v.trace, logs := v.logs }
  cell : ∀ r, (v.runners.get r).standing = (w.runners.get r).standing

namespace World

@[simp] theorem changeRunner_get_self (w : World) (r : Nat) (f : Runner → Runner) :
    (w.changeRunner r f).runners.get r = f (w.runners.get r) :=
  Store.get_update_self w.runners r f

theorem changeRunner_get (w : World) (r i : Nat) (f : Runner → Runner) :
    (w.changeRunner r f).runners.get i = if r = i then f (w.runners.get i) else w.runners.get i :=
  Store.get_update w.runners r i f

namespace SameStanding

variable {w v : World}

theorem of_sameCore (h : SameCore w v) : SameStanding w v where
  rest := by
    unfold SameCore at h
    rw [h]
  cell r := by rw [h.runners]

theorem dialect (h : SameStanding w v) : v.dialect = w.dialect :=
  (congrArg World.dialect h.rest :)

theorem subscribers (h : SameStanding w v) : v.subscribers = w.subscribers :=
  (congrArg World.subscribers h.rest :)

theorem active (h : SameStanding w v) (r : Nat) : (v.runners.get r).active = (w.runners.get r).active :=
  (congrArg Runner.active (h.cell r) :)

theorem transaction (h : SameStanding w v) (r : Nat) :
    (v.runners.get r).transaction = (w.runners.get r).transaction :=
  (congrArg Runner.transaction (h.cell r) :)

theorem released (h : SameStanding w v) (r : Nat) :
    (v.runners.get r).released = (w.runners.get r).released :=
  (congrArg Runner.released (h.cell r) :)

/-- A change of a runner that keeps its standing. -/
theorem changeRunner (w : World) (r : Nat) {f : Runner → Runner} (h : ∀ x, (f x).standing = x.standing) :
    SameStanding w (w.changeRunner r f) where
  rest := rfl
  cell i := by
    rw [changeRunner_get]
    split
    · exact h _
    · rfl

instance : IsPreorder World SameStanding where
  refl w := ⟨rfl, fun _ => rfl⟩
  trans u v w huv hvw := by
    refine ⟨?_, fun r => (hvw.cell r).trans (huv.cell r)⟩
    rw [hvw.rest, huv.rest]

end SameStanding

end World

instance {R : World → World → Prop} [h : World.Permits World.SameStanding R] :
    World.Permits World.SameCore R :=
  ⟨fun hc => h.le (.of_sameCore hc)⟩

/-- What statements change of runners and of the storage are steps along `R`, and so are their calls on the
backend. -/
class World.Runs (R : World → World → Prop) : Prop extends World.Calls R where
  ran : ∀ (w : World) (r : Nat) (f : Runner → Runner), (∀ x, (f x).standing = x.standing) →
    R w (w.changeRunner r f)
  stored : ∀ (w : World) (storage : Storage), R w { w with storage }

instance {R : World → World → Prop} [h : World.Runs R] : World.Images R where
  imaged w e he := h.emitted w e (Event.endsTransaction_of_isImage he)
  asked w rest := by
    have hsite : Site.txCommit ≠ .nativeSerialize := by decide
    exact h.changed w _ (if_neg hsite : (if _ then rest else _) = _)
  stored := h.stored

instance {R : World → World → Prop} [h : World.Permits World.SameStanding R] : World.Runs R where
  ran w r _ hf := h.le (.changeRunner w r hf)
  stored _ _ := h.le ⟨rfl, fun _ => rfl⟩

/-- Changes of runners are steps along `R`, whatever they are. -/
class World.Employs (R : World → World → Prop) : Prop where
  served : ∀ (w : World) (runners : Store Runner) (shared : Option Nat), R w { w with runners, shared }

/-- Changes of runners are steps along `R`, and so are statements, taking connections and closing them. -/
class World.Serves (R : World → World → Prop) : Prop extends
    World.Notes R, World.Works R, World.Exports R, World.Employs R where
  connected : ∀ (w : World) (c : Connection),
    R w (w.changeBackend fun b => { b with connections := (b.connections.add c).2 })

namespace Session

open World (Reports Announces Hooked Idles Steadies Works Exports Calls Runs Employs Serves)

variable {R : World → World → Prop}

theorem moves_changeRunner [hR : Runs R] (r : Nat) {f : Runner → Runner}
    (h : ∀ x, (f x).standing = x.standing) : Moves R (changeRunner r f) :=
  .modify fun w => hR.ran w r f h

/-- Any change of a runner. -/
theorem moves_serve [hR : Employs R] (r : Nat) (f : Runner → Runner) : Moves R (changeRunner r f) :=
  .modify fun w => hR.served w _ w.shared

variable [IsPreorder World R]

/-! ## Before and after a statement -/

theorem moves_announce [Reports R] [hR : Announces R] (b : Builder Nat) {h : Option Hook}
    (hh : ∀ g ∈ h, g.isEntityHook = true) (payloads : List Value) : Moves R (announce b h payloads) := by
  unfold announce
  split
  · next g subject _ =>
    have hooked : Hooked g R := ⟨fun w i => hR.announced w i g (hh g rfl)⟩
    exact .ite (moves_broadcast ..) (.pure _)
  · exact .pure _

/-- Of a statement the hooks for statements are told. -/
theorem isEntityHook_of_mem {kind : StatementKind} {h : Hook}
    (hh : h ∈ (hooksOf kind).map Prod.fst ∨ h ∈ (hooksOf kind).map Prod.snd) : h.isEntityHook = true := by
  cases kind <;> rcases hh with hh | hh <;> cases hh <;> rfl

section
variable [Reports R] [Announces R] (b : Builder Nat) (payloads : List Value) (r : Nat) (sql : String)
  (values : List Value)

theorem moves_stepsOf_before : Moves R (stepsOf b payloads r sql values).before :=
  moves_announce b (fun _ hg => isEntityHook_of_mem (.inl hg)) payloads

theorem moves_stepsOf_after : Moves R (stepsOf b payloads r sql values).after :=
  moves_announce b (fun _ hg => isEntityHook_of_mem (.inr hg)) payloads

end

section
variable [Steadies R]

theorem moves_askRowId : Moves R askRowId := by
  have failed (fields : Record) (text : String) :
      Moves R (do
        log .error "quarry.driver.sqljs.driver" "Query failed" (fields ++ [("error", .text text)]) true
        return none : Session (Option (List Value))) :=
    (moves_log ..).bind fun _ => .pure _
  refine moves_sourceField.bind fun _ => (moves_log ..).bind fun _ => Moves.get.bind fun w => ?_
  split
  · exact failed _ _
  · refine (moves_nativeExecute ..).attempt.bind fun r => ?_
    split
    · exact moves_fetchRowId
    · exact failed _ _

theorem moves_lookUpIds (index count : Value) (columns : List Column) :
    Moves R (lookUpIds index count columns) := by
  induction columns with
  | nil => exact .pure _
  | cons c rest ih =>
    have more (here : Record) : Moves R (do
        return Assoc.merge here (← lookUpIds index count rest)) := ih.bind fun _ => .pure _
    refine moves_askRowId.bind fun row => ?_
    dsimp only
    split
    · exact more _
    · exact .throw _
    · exact more _
    · exact (moves_ofResult _).bind fun _ => more _

theorem moves_generatedMap (e : Entity) (answer : QueryOutcome) (index count : Value) :
    Moves R (generatedMap e answer index count) := by
  refine Moves.get.bind fun w => ?_
  split
  · exact (moves_lookUpIds ..).bind fun _ => .pure _
  · exact moves_ofResult _

end

theorem moves_rowOutcomes (e : Entity) (isKnown : Nat → Bool)
    {generate : Nat → Session (Option Record)} (hg : ∀ i, Moves R (generate i)) (index : Nat)
    (rows : List Value) : Moves R (Generated.rowOutcomes e isKnown generate index rows) := by
  induction rows generalizing index with
  | nil => exact .pure _
  | cons row rest ih =>
    have more (known : Record × Option Record) : Moves R (do
        return known :: (← Generated.rowOutcomes e isKnown generate (index + 1) rest)) :=
      (ih (index + 1)).bind fun _ => .pure _
    unfold Generated.rowOutcomes
    dsimp only
    split
    · refine (hg index).bind fun generated => ?_
      split
      · exact more _
      · exact .throw _
    · refine Moves.bind (.pure _) fun generated => ?_
      split
      · exact more _
      · exact .throw _

theorem moves_insertOutcome (dialect : Dialect) (d : Draft) (e : Option Entity) (rows : List Value)
    (answer : QueryOutcome) {generate : Nat → Session (Option Record)}
    (hg : ∀ i, Moves R (generate i)) :
    Moves R (Generated.insertOutcome dialect d e rows answer generate) := by
  unfold Generated.insertOutcome
  split
  · exact .pure _
  · dsimp only
    split
    · exact (moves_rowOutcomes _ _ hg _ _).bind fun _ => .pure _
    · exact .throw _

theorem moves_outcomeOf [Steadies R] (b : Builder Nat) (answer : QueryOutcome) :
    Moves R (outcomeOf b answer) := by
  unfold outcomeOf
  split
  · exact .pure _
  · exact .pure _
  · exact .pure _
  · refine (moves_ofResult _).bind fun e => (moves_ofResult _).bind fun rows => Moves.get.bind fun _ =>
      (moves_insertOutcome _ _ _ _ _ fun i => ?_).bind fun _ => .pure _
    split
    · exact moves_generatedMap ..
    · exact .pure _

/-! ## Before and after a statement is sent -/

/-- The current engine hands a connection out, if there is one. -/
theorem moves_obtainConnection_of [Reports R] (h : ∀ e, Moves R (connectEngine e)) : Moves R obtainConnection := by
  refine Moves.get.bind fun w => ?_
  split
  · exact moves_raise _
  · exact h _

theorem moves_obtainConnection [Idles R] : Moves R obtainConnection :=
  moves_obtainConnection_of moves_connectEngine

/-- A connection is checked out when the runner has none. -/
theorem moves_connect_of [Reports R] (r : Nat) (hobtain : Moves R obtainConnection)
    (h : ∀ c, Moves R (changeRunner r fun x => { x with connection := some c })) : Moves R (connect r) := by
  refine (moves_runner r).bind fun x => .guarded (moves_raise _) ?_
  dsimp only
  split
  · exact .pure _
  · exact hobtain.bind fun c => (h c).bind fun _ => .pure _

theorem moves_warnIfSlow [Steadies R] (fields : Record) (started : Double) : Moves R (warnIfSlow fields started) :=
  moves_now.bind fun _ => Moves.get.bind fun _ => .ite (.pure _)
    ((moves_ofResult _).bind fun _ => .ite (moves_log ..) (.pure _))

/-! ## Images -/

section
variable [hR : Exports R]

theorem moves_exportImage : Moves R exportImage := by
  refine Moves.get.bind fun w => ?_
  split
  · exact moves_nativeSerialize _
  · exact .throw _

theorem moves_store (location : Value) (image : List UInt8) : Moves R (store location image) := by
  refine Moves.get.bind fun w => .bind (.modify fun w => hR.stored w _) fun _ => ?_
  split
  · exact moves_log ..
  · exact .throw _

theorem moves_save (location : Value) : Moves R (save location) := by
  refine Moves.get.bind fun w => .guarded (moves_raise _) ?_
  refine moves_exportImage.bind fun image => (moves_store ..).attempt.bind fun r => ?_
  split
  · exact .pure _
  · exact .ite (moves_raise _) (.throw _)

theorem moves_autoSave : Moves R autoSave := by
  refine Moves.get.bind fun w => .ite ?_ (.pure _)
  refine .ite (moves_save _) (moves_exportImage.bind fun image => ?_)
  split
  · refine .bind (.modify fun w => hR.imaged w _ rfl) fun _ => ?_
    split
    · exact .throw _
    · exact .pure _
  · exact .pure _
  · exact .throw _
  · exact .throw _

/-- Pending changes are handed over when the runner is marked, and it loses its mark then. -/
theorem moves_flush_of (r : Nat) (h : Moves R (changeRunner r fun x => { x with dirty := false })) :
    Moves R (flush r) :=
  (moves_runner r).bind fun _ => .ite (h.bind fun _ => moves_autoSave) (.pure _)

theorem moves_afterQuery_of (r : Nat) (sql : Value)
    (h : ∀ dirty, Moves R (changeRunner r fun x => { x with dirty })) : Moves R (afterQuery r sql) := by
  have handOver : Moves R (do if !(← runner r).active then flush r) :=
    (moves_runner r).bind fun _ => .ite (moves_flush_of r (h false)) (.pure _)
  refine moves_keepsImage.bind fun _ => .ite ?_ (.pure _)
  split
  · exact .throw _
  · exact .guarded (h true) handOver

end

/-! ## Running a statement -/

/-- After a statement that failed, what it left open on its connection may be rolled back. -/
theorem moves_cleanUp_of [Steadies R] (r c : Nat) (fields : Record) (started : Double) (f : Failure)
    (hrollback : Moves R (rollback c)) : Moves R (cleanUp r c fields started f) :=
  moves_now.bind fun _ => (moves_log ..).bind fun _ => (moves_runner r).bind fun _ =>
    (moves_inTransaction c).bind fun _ => .ite hrollback (.pure _)

section
variable [Works R]

theorem moves_execAndCommit (r c : Nat) (sql : Value) (values : List Value) :
    Moves R (execAndCommit r c sql values) :=
  (moves_exec ..).bind fun _ => (moves_runner r).bind fun _ =>
    .guarded (moves_commit c) (Moves.get.bind fun _ => .pure _)

theorem moves_cleanUp (r c : Nat) (fields : Record) (started : Double) (f : Failure) :
    Moves R (cleanUp r c fields started f) :=
  moves_cleanUp_of r c fields started f (moves_rollback c)

end

/-- Runs a statement that `send` executes and commits, on the connection and with the values that are found for it. -/
def runSending (send : Nat → List Value → Session QueryOutcome) (r : Nat) (sql parameters : Value) :
    Session QueryOutcome := do
  if (← runner r).released then raise (.problem .runnerReleased none)
  let c ← connect r
  let values ← ofResult (positional parameters)
  let fields ← statementFields sql values
  log (if ((← get).settings.get "log_queries").truth then .info else .debug) "quarry.driver.query_runner"
    "Executing query" fields
  let started ← now
  match ← attempt (send c values) with
  | .error f =>
    cleanUp r c fields started f
    let shown ← ofResult (ProblemKind.tellableQuery sql)
    raise (.problem (.queryFailed shown values) (some f))
  | .ok outcome =>
    warnIfSlow fields started
    afterQuery r sql
    return outcome

theorem runStatement_eq (r : Nat) (sql parameters : Value) :
    runStatement r sql parameters = runSending (fun c values => execAndCommit r c sql values) r sql parameters := rfl

/-- A statement of a runner moves the world as sending it and taking a connection do, and as the marks for the
automatic save do. -/
theorem moves_runSending_of [Works R] [Exports R] {send : Nat → List Value → Session QueryOutcome} (r : Nat)
    (sql parameters : Value) (hsend : ∀ c values, Moves R (send c values)) (hconnect : Moves R (connect r))
    (hmark : ∀ dirty, Moves R (changeRunner r fun x => { x with dirty })) :
    Moves R (runSending send r sql parameters) := by
  refine (moves_runner r).bind fun _ => .guarded (moves_raise _) ?_
  refine hconnect.bind fun c => (moves_ofResult _).bind fun values =>
    (moves_statementFields ..).bind fun fields => Moves.get.bind fun _ =>
    (moves_log ..).bind fun _ => moves_now.bind fun started =>
    (hsend c values).attempt.bind fun answer => ?_
  split
  · exact (moves_cleanUp ..).bind fun _ => (moves_ofResult _).bind fun _ => moves_raise _
  · exact (moves_warnIfSlow ..).bind fun _ => (moves_afterQuery_of r sql hmark).bind fun _ => .pure _

theorem moves_runStatement_of [Works R] [Exports R] (r : Nat) (sql parameters : Value) (hconnect : Moves R (connect r))
    (hmark : ∀ dirty, Moves R (changeRunner r fun x => { x with dirty })) :
    Moves R (runStatement r sql parameters) :=
  moves_runSending_of r sql parameters (fun c values => moves_execAndCommit r c sql values) hconnect hmark

theorem moves_query_of [Works R] [Exports R] (r : Nat) (sql parameters : Value) (hconnect : Moves R (connect r))
    (hmark : ∀ dirty, Moves R (changeRunner r fun x => { x with dirty })) : Moves R (query r sql parameters) :=
  Moves.get.bind fun _ => moves_traced _ (moves_runStatement_of r sql parameters hconnect hmark)

section
variable [hR : Runs R]

theorem moves_connect (r : Nat) : Moves R (connect r) :=
  moves_connect_of r moves_obtainConnection fun _ => moves_changeRunner r fun _ => rfl

theorem moves_flush (r : Nat) : Moves R (flush r) := moves_flush_of r (moves_changeRunner r fun _ => rfl)

/-- A statement changes the standing of no runner. -/
theorem moves_query (r : Nat) (sql parameters : Value) : Moves R (query r sql parameters) :=
  moves_query_of r sql parameters (moves_connect r) fun _ => moves_changeRunner r fun _ => rfl

end

/-! ## Runners that come and go -/

section
variable [hR : Employs R]

theorem moves_closeConnection_of (r : Nat) (hclose : ∀ c, Moves R (close c)) : Moves R (closeConnection r) := by
  refine (moves_runner r).bind fun x => (moves_serve ..).bind fun _ => ?_
  split
  · exact hclose _
  · exact .pure _

/-- A server's runner is given back by closing its connection; the runner of an image hands its changes over. -/
theorem moves_release_of [Exports R] (r : Nat) (hclose : ∀ c, Moves R (close c)) : Moves R (release r) := by
  refine Moves.get.bind fun w => ?_
  split
  · exact .pure _
  · exact (moves_runner r).bind fun _ => .ite (moves_flush_of r (moves_serve ..)) (.pure _)
  · exact (moves_runner r).bind fun _ =>
      .ite ((moves_serve ..).bind fun _ => moves_closeConnection_of r hclose) (.pure _)

theorem moves_addRunner (mode : Value) : Moves R (addRunner mode) :=
  Moves.get.bind fun _ => .bind (.modify fun w => hR.served w _ w.shared) fun _ => .pure _

theorem moves_sharedRunner (mode : Value) : Moves R (sharedRunner mode) := by
  refine Moves.get.bind fun w => ?_
  split
  · exact .pure _
  · exact (moves_addRunner mode).bind fun _ => .bind (.modify fun w => hR.served w w.runners _) fun _ => .pure _

theorem moves_createRunner [Reports R] (mode : Value) : Moves R (createRunner mode) := by
  refine Moves.get.bind fun w => .guarded (moves_raise _) (Moves.get.bind fun w => .ite ?_ ?_)
  · exact .guarded (moves_raise _) (moves_addRunner mode)
  · exact .guarded (moves_raise _) (moves_sharedRunner mode)

theorem moves_obtainRunner [Reports R] (given : Value) : Moves R (obtainRunner given) :=
  .ite (.pure _) ((moves_createRunner _).bind fun _ => Moves.get.bind fun _ => .pure _)

end

section
variable [hR : Serves R]

theorem moves_closeConnection (r : Nat) : Moves R (closeConnection r) := moves_closeConnection_of r moves_close

theorem moves_release (r : Nat) : Moves R (release r) := moves_release_of r moves_close

theorem moves_serveConnect (r : Nat) : Moves R (connect r) := by
  refine moves_connect_of r (moves_obtainConnection_of fun e => ?_) fun _ => moves_serve ..
  exact moves_connectEngine_of e fun w => hR.connected w _

theorem moves_serveQuery (r : Nat) (sql parameters : Value) : Moves R (query r sql parameters) :=
  moves_query_of r sql parameters (moves_serveConnect r) fun _ => moves_serve ..

/-- A raw statement, on whatever it is run. -/
theorem moves_runRaw (sql parameters given : Value) : Moves R (runRaw sql parameters given) := by
  have apart (sql : Value) (values : List Value) : Moves R (runApart sql values) :=
    (moves_createRunner _).bind fun r =>
      .andFinally ((moves_serveQuery ..).bind fun _ => .pure _) (moves_release r)
  refine Moves.get.bind fun w => .guarded (moves_raise _) ((moves_ofResult _).bind fun (sql, values) => ?_)
  refine .ite (apart _ _) ?_
  split
  · exact (moves_serveQuery ..).bind fun _ => .pure _
  · exact apart _ _
  · exact .throw _

end

end Session

end SqlWeave
