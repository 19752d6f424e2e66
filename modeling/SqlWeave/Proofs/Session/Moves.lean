import Mathlib.Logic.Basic
import Mathlib.Order.Defs.Unbundled
import SqlWeave.Proofs.Session.Ending
import SqlWeave.Session.Query

/-!
# What a call does to the world

`Moves R s` says that, however the call `s` ends, the world that it leaves is related by `R` to the
one that it began in. For a preorder `R` it passes from the parts of a call to the whole of it, so each
call is described once by what its own steps do. Preserved invariants and unchanged parts of the world
are both of this form.

Two preorders are met everywhere: `World.Noted` lets a call leave notes in the trace and the log, call
hooks and hold locks, and `World.SameCore` lets it change the backend, too. What a call does is described
for every preorder that lets its steps pass: `World.Notes` and `World.Calls` say so for the steps of most
calls, which do not end a transaction at the backend, and `World.Asides` for hooks and locks.
-/

namespace SqlWeave

namespace Session

variable {α β : Type} {R : World → World → Prop}

/-- However the call ends, the world moves along `R`. -/
structure Moves (R : World → World → Prop) (s : Session α) : Prop where
  along : ∀ w, R w (ends s w).2

namespace Moves

theorem mono {R' : World → World → Prop} {s : Session α} (h : Moves R s)
    (hle : ∀ w v, R w v → R' w v) : Moves R' s :=
  ⟨fun w => hle _ _ (h.along w)⟩

theorem of_ends {s : Session α} {x : Result α} {w v : World} (h : Moves R s) (hs : ends s w = (x, v)) : R w v := by
  have hw := h.along w
  rwa [hs] at hw

theorem modify {f : World → World} (h : ∀ w, R w (f w)) : Moves R (modify f) := ⟨h⟩

/-- A branch of a call that depends on a test. -/
theorem ite {c : Prop} [Decidable c] {s t : Session α} (hs : Moves R s) (ht : Moves R t) :
    Moves R (if c then s else t) := by
  split
  · exact hs
  · exact ht

theorem attempt {s : Session α} (hs : Moves R s) : Moves R (attempt s) := by
  refine ⟨fun w => ?_⟩
  rw [ends_attempt]
  exact hs.along w

section
variable [IsPreorder World R]

theorem pure (a : α) : Moves R (pure a) := ⟨fun w => refl_of R w⟩

theorem throw (f : Failure) : Moves R (throw f : Session α) := ⟨fun w => refl_of R w⟩

theorem get : Moves R get := ⟨fun w => refl_of R w⟩

theorem bind {s : Session α} {k : α → Session β} (hs : Moves R s) (hk : ∀ a, Moves R (k a)) :
    Moves R (s >>= k) := by
  refine ⟨fun w => ?_⟩
  have hw := hs.along w
  rw [ends_bind]
  rcases h : ends s w with ⟨f | a, v⟩
  · rw [h] at hw
    exact hw
  · rw [h] at hw
    exact trans_of R hw ((hk a).along v)

/-- A step that is made only when a test holds, and what follows it. -/
theorem guarded {c : Prop} [Decidable c] {s : Session PUnit} {k : PUnit → Session α}
    (hs : Moves R s) (hk : Moves R (k ⟨⟩)) : Moves R (if c then s >>= k else k ⟨⟩) := by
  split
  · exact hs.bind fun _ => hk
  · exact hk

theorem tryCatch {s : Session α} {handle : Failure → Session α} (hs : Moves R s) (hh : ∀ f, Moves R (handle f)) :
    Moves R (tryCatch s handle) := by
  refine ⟨fun w => ?_⟩
  have hw := hs.along w
  rw [ends_tryCatch]
  rcases h : ends s w with ⟨f | a, v⟩
  · rw [h] at hw
    exact trans_of R hw ((hh f).along v)
  · rw [h] at hw
    exact hw

theorem ofExcept (r : Result α) : Moves R (MonadExcept.ofExcept r : Session α) := by
  refine ⟨fun w => ?_⟩
  rw [ends_ofExcept]
  exact refl_of R w

theorem andFinally {s : Session α} {after : Session Unit} (hs : Moves R s) (ha : Moves R after) :
    Moves R (andFinally s after) :=
  hs.attempt.bind fun r => ha.bind fun _ => ofExcept r

theorem execution_andFinally {s : Session α} {after : Session Unit} (hs : Moves R s) (ha : Moves R after) :
    Moves R (Execution.andFinally s after) := by
  refine (Moves.attempt hs).bind fun r => ha.bind fun _ => ?_
  cases r with
  | ok a => exact pure a
  | error f => exact throw f

end

end Moves

end Session

/-! ## Preorders on worlds -/

/-- Does the event tell of the end of a transaction? -/
def Event.endsTransaction : Event → Bool
  | .txCommit _ | .txRollback _ => true
  | _ => false

/-- Does the event tell of no statement, of no end of what statements did, and of no image? -/
def Event.isIdle : Event → Bool
  | .engineConnect | .begin _ | .options .. | .nativeExecute .. | .notify .. | .span _ => true
  | _ => false

/-- Does the event tell of no call on the backend, but of a subscriber that was told or of a span? -/
def Event.isReport : Event → Bool
  | .notify .. | .span _ => true
  | _ => false

theorem Event.isIdle_of_isReport {e : Event} (h : e.isReport = true) : e.isIdle = true := by
  cases e <;> first | rfl | cases h

theorem Event.endsTransaction_of_isIdle {e : Event} (h : e.isIdle = true) : e.endsTransaction = false := by
  cases e <;> first | rfl | cases h

/-- Does the event tell of an image, that is asked for or handed over? -/
def Event.isImage : Event → Bool
  | .nativeSerialize _ | .callback _ => true
  | _ => false

theorem Event.endsTransaction_of_isImage {e : Event} (h : e.isImage = true) : e.endsTransaction = false := by
  cases e <;> first | rfl | cases h

/-- Does the event tell of an engine, a connection or a native database that comes or goes? -/
def Event.isStock : Event → Bool
  | .createEngine .. | .engineDispose | .close _ | .nativeConnect .. | .nativeClose _ => true
  | _ => false

/-- Is a call of the kind noted by an idle event? -/
def Site.isIdle : Site → Bool
  | .begin | .connect | .nativeExecute => true
  | _ => false

/-- The backends answer statements, their ends and questions for an image alike, and the second has handed
out no fewer connections. -/
structure Backend.SameAnswers (b b' : Backend) : Prop where
  faults : ∀ site, site.isIdle = false → b'.faults site = b.faults site
  replies : b'.replies = b.replies
  next_le : b.connections.next ≤ b'.connections.next

namespace Backend.SameAnswers

variable {a b c : Backend}

theorem refl (b : Backend) : b.SameAnswers b := ⟨fun _ _ => rfl, rfl, Nat.le_refl _⟩

theorem trans (h : a.SameAnswers b) (h' : b.SameAnswers c) : a.SameAnswers c where
  faults site hs := (h'.faults site hs).trans (h.faults site hs)
  replies := h'.replies.trans h.replies
  next_le := Nat.le_trans h.next_le h'.next_le

end Backend.SameAnswers

/-- The backends have handed out equally many connections, have the same engines, and native databases of which
the same are closed. -/
structure Backend.SameStock (b b' : Backend) : Prop where
  connections : b'.connections.next = b.connections.next
  engines : b'.engines = b.engines
  natives : b'.natives.next = b.natives.next
  closed : ∀ n, (b'.natives.get n).closed = (b.natives.get n).closed

theorem Backend.SameStock.of_natives_eq {b b' : Backend} (hn : b'.natives = b.natives) (he : b'.engines = b.engines)
    (hc : b'.connections.next = b.connections.next) : b.SameStock b' :=
  ⟨hc, he, by rw [hn], fun _ => by rw [hn]⟩

namespace World

/-- The worlds differ in no more than their notes, the trace and the log, and in what waits at hooks and how locks
are held. -/
def Noted (w v : World) : Prop :=
  v = { w with hookFaults := v.hookFaults, locks := v.locks, trace := v.trace, logs := v.logs }

/-- The worlds differ in no more than that and the backend. -/
def SameCore (w v : World) : Prop :=
  v = { w with hookFaults := v.hookFaults, locks := v.locks, backend := v.backend, trace := v.trace, logs := v.logs }

/-- Where the trace goes on with events of one kind, and then with more of them, it goes on with such events. -/
theorem told_trans {P : Event → Prop} {u v w : World} (h : ∃ events, v.trace = u.trace ++ events ∧ ∀ e ∈ events, P e)
    (h' : ∃ events, w.trace = v.trace ++ events ∧ ∀ e ∈ events, P e) :
    ∃ events, w.trace = u.trace ++ events ∧ ∀ e ∈ events, P e := by
  obtain ⟨xs, hv, hxs⟩ := h
  obtain ⟨ys, hw, hys⟩ := h'
  exact ⟨xs ++ ys, by rw [hw, hv, List.append_assoc], List.forall_mem_append.mpr ⟨hxs, hys⟩⟩

/-- Every step along `S` is a step along `R`. -/
class Permits (S R : World → World → Prop) : Prop where
  le : ∀ {w v}, S w v → R w v

instance (R : World → World → Prop) : Permits R R := ⟨id⟩

instance : IsPreorder World Noted where
  refl _ := rfl
  trans u v w huv hvw := by
    unfold Noted at huv hvw ⊢
    rw [hvw, huv]

instance : IsPreorder World SameCore where
  refl _ := rfl
  trans u v w huv hvw := by
    unfold SameCore at huv hvw ⊢
    rw [hvw, huv]

theorem Noted.sameCore {w v : World} (h : Noted w v) : SameCore w v := by
  unfold Noted at h
  unfold SameCore
  rw [h]

instance {R : World → World → Prop} [h : Permits SameCore R] : Permits Noted R :=
  ⟨fun hn => h.le hn.sameCore⟩

/-- Notes are steps along `R`, but for those of the end of a transaction. -/
class Notes (R : World → World → Prop) : Prop where
  logged : ∀ (w : World) (logs : List LogEntry), R w { w with logs }
  emitted : ∀ (w : World) (e : Event), e.endsTransaction = false → R w { w with trace := w.trace ++ [e] }

/-- Changes of the backend are steps along `R`, too, when they keep what waits at the commit of a
transaction. -/
class Calls (R : World → World → Prop) : Prop extends Notes R where
  changed : ∀ (w : World) (f : Backend → Backend),
    (f w.backend).faults .txCommit = w.backend.faults .txCommit → R w (w.changeBackend f)

/-- Whatever becomes of the backend, and is noted of it, is a step along `R`. -/
class Settles (R : World → World → Prop) : Prop where
  settled : ∀ (w : World) (backend : Backend) (trace : List Event), R w { w with backend, trace }

/-- Log records, and notes that tell of no call on the backend, are steps along `R`. -/
class Reports (R : World → World → Prop) : Prop where
  logged : ∀ (w : World) (logs : List LogEntry), R w { w with logs }
  reported : ∀ (w : World) (e : Event), e.isReport = true → R w { w with trace := w.trace ++ [e] }

/-- Log records, and notes of idle calls, are steps along `R`. -/
class Remarks (R : World → World → Prop) : Prop where
  logged : ∀ (w : World) (logs : List LogEntry), R w { w with logs }
  idled : ∀ (w : World) (e : Event), e.isIdle = true → R w { w with trace := w.trace ++ [e] }

/-- Changes of the backend are steps along `R`, too, when they keep its answers. -/
class Idles (R : World → World → Prop) : Prop extends Remarks R where
  changed : ∀ (w : World) (f : Backend → Backend), w.backend.SameAnswers (f w.backend) →
    R w (w.changeBackend f)

/-- Changes of the backend are steps along `R`, too, when they keep its answers and its stock. -/
class Steadies (R : World → World → Prop) : Prop extends Remarks R where
  steadied : ∀ (w : World) (f : Backend → Backend), w.backend.SameAnswers (f w.backend) →
    w.backend.SameStock (f w.backend) → R w (w.changeBackend f)

/-- Notes that tell neither of the end of a transaction nor of the stock are steps along `R`, and so are changes of
the backend that keep its stock and what waits at the commit of a transaction. -/
class Works (R : World → World → Prop) : Prop extends Remarks R where
  noted : ∀ (w : World) (e : Event), e.endsTransaction = false → e.isStock = false →
    R w { w with trace := w.trace ++ [e] }
  worked : ∀ (w : World) (f : Backend → Backend),
    (f w.backend).faults .txCommit = w.backend.faults .txCommit → w.backend.SameStock (f w.backend) →
    R w (w.changeBackend f)

/-- Steps that keep the answers and the stock of the backend are steps along `R`, and so are asking for an image,
handing it over and storing it. -/
class Exports (R : World → World → Prop) : Prop extends Steadies R where
  imaged : ∀ (w : World) (e : Event), e.isImage = true → R w { w with trace := w.trace ++ [e] }
  asked : ∀ (w : World) (rest : List (Option Failure)), R w (w.changeBackend fun b =>
    { b with faults := fun s => if s = .nativeSerialize then rest else b.faults s })
  stored : ∀ (w : World) (storage : Storage), R w { w with storage }

/-- Asking for an image and handing it over are steps along `R`, too. -/
class Images (R : World → World → Prop) : Prop extends Idles R where
  imaged : ∀ (w : World) (e : Event), e.isImage = true → R w { w with trace := w.trace ++ [e] }
  asked : ∀ (w : World) (rest : List (Option Failure)), R w (w.changeBackend fun b =>
    { b with faults := fun s => if s = .nativeSerialize then rest else b.faults s })
  stored : ∀ (w : World) (storage : Storage), R w { w with storage }

/-- Calls of hook `h` are steps along `R`, whatever they take of what waits at them. -/
class Hooked (h : Hook) (R : World → World → Prop) : Prop where
  hooked : ∀ (w : World) (i : Nat), R w (w.afterHook i h)

/-- Calls of the hooks around statements are steps along `R`. -/
class Announces (R : World → World → Prop) : Prop where
  announced : ∀ (w : World) (i : Nat) (h : Hook), h.isEntityHook = true → R w (w.afterHook i h)

/-- To take the lock of a runner, or to give it back, is a step along `R`. -/
class Locks (R : World → World → Prop) : Prop where
  locked : ∀ (w : World) (r n : Nat), R w (w.setLock r n)

/-- Calls of hooks and holding locks are steps along `R`. -/
class Asides (R : World → World → Prop) : Prop extends Locks R where
  asked : ∀ (w : World) (i : Nat) (h : Hook), R w (w.afterHook i h)

instance {R : World → World → Prop} [hR : Asides R] (h : Hook) : Hooked h R := ⟨fun w i => hR.asked w i h⟩

instance {R : World → World → Prop} [hR : Asides R] : Announces R := ⟨fun w i h _ => hR.asked w i h⟩

instance {R : World → World → Prop} [h : Notes R] : Remarks R :=
  ⟨h.logged, fun w e he => h.emitted w e (Event.endsTransaction_of_isIdle he)⟩

instance {R : World → World → Prop} [h : Calls R] : Idles R where
  changed w f hf := h.changed w f (hf.faults .txCommit rfl)

instance {R : World → World → Prop} [h : Remarks R] : Reports R :=
  ⟨h.logged, fun w e he => h.idled w e (Event.isIdle_of_isReport he)⟩

instance {R : World → World → Prop} [h : Idles R] : Steadies R where
  steadied w f hf _ := h.changed w f hf

instance {R : World → World → Prop} [h : Works R] : Steadies R where
  steadied w f hf hs := h.worked w f (hf.faults .txCommit rfl) hs

instance {R : World → World → Prop} [h : Calls R] : Works R where
  noted w e he _ := h.emitted w e he
  worked w f hf _ := h.changed w f hf

instance {R : World → World → Prop} [h : Images R] : Exports R := ⟨h.imaged, h.asked, h.stored⟩

instance {R : World → World → Prop} [h : Permits Noted R] : Notes R :=
  ⟨fun _ _ => h.le rfl, fun _ _ _ => h.le rfl⟩

instance {R : World → World → Prop} [h : Permits SameCore R] : Calls R :=
  ⟨fun _ _ _ => h.le rfl⟩

instance {R : World → World → Prop} [h : Permits SameCore R] : Settles R := ⟨fun _ _ _ => h.le rfl⟩

instance {R : World → World → Prop} [h : Permits Noted R] : Asides R where
  locked _ _ _ := h.le rfl
  asked _ _ _ := h.le rfl

theorem Noted.backend {w v : World} (h : Noted w v) : v.backend = w.backend :=
  (congrArg World.backend h :)

theorem SameCore.runners {w v : World} (h : SameCore w v) : v.runners = w.runners :=
  (congrArg World.runners h :)

theorem SameCore.subscribers {w v : World} (h : SameCore w v) : v.subscribers = w.subscribers :=
  (congrArg World.subscribers h :)

end World

namespace Session

open World (Notes Settles Reports Remarks Idles Steadies Works Exports Hooked Locks)

variable {α : Type} {R : World → World → Prop}

/-! ## Single steps -/

theorem moves_emit [hR : Notes R] (e : Event) (h : e.endsTransaction = false) : Moves R (emit e) :=
  .modify fun w => hR.emitted w e h

theorem moves_emitIdle [hR : Remarks R] (e : Event) (h : e.isIdle = true) : Moves R (emit e) :=
  .modify fun w => hR.idled w e h

theorem moves_emitReport [hR : Reports R] (e : Event) (h : e.isReport = true) : Moves R (emit e) :=
  .modify fun w => hR.reported w e h

theorem moves_log [hR : Reports R] (level : LogLevel) (logger message : String) (extras : Record)
    (hasFailure : Bool) : Moves R (log level logger message extras hasFailure) :=
  .modify fun w => hR.logged w _

/-- A note that tells neither of the end of a transaction nor of the stock. -/
theorem moves_emitWork [hR : Works R] (e : Event) (h : e.endsTransaction = false) (hs : e.isStock = false) :
    Moves R (emit e) :=
  .modify fun w => hR.noted w e h hs

theorem moves_changeBackend [hR : Works R] (f : Backend → Backend)
    (h : ∀ b, (f b).faults .txCommit = b.faults .txCommit) (hs : ∀ b : Backend, b.SameStock (f b)) :
    Moves R (modify fun w => w.changeBackend f) :=
  .modify fun w => hR.worked w f (h w.backend) (hs w.backend)

/-- A statement that ran on a native database closes none. -/
theorem moves_afterStatement [Works R] (n : Nat) : Moves R (modify fun w => w.changeBackend fun b =>
    { b with natives := b.natives.update n Native.afterStatement }) := by
  refine moves_changeBackend _ (fun _ => rfl) fun b => ⟨rfl, rfl, rfl, fun i => ?_⟩
  show ((b.natives.update n Native.afterStatement).get i).closed = _
  rw [Store.get_update]
  split
  · rfl
  · rfl

/-- A change of the backend that keeps its answers and its stock. -/
theorem moves_changeSteady [hR : Steadies R] (f : Backend → Backend) (h : ∀ b : Backend, b.SameAnswers (f b))
    (hs : ∀ b : Backend, b.SameStock (f b)) : Moves R (modify fun w => w.changeBackend f) :=
  .modify fun w => hR.steadied w f (h w.backend) (hs w.backend)

theorem moves_changeConnection [Steadies R] (c : Nat) (f : Connection → Connection) :
    Moves R (changeConnection c f) :=
  moves_changeSteady _ (fun _ => ⟨fun _ _ => rfl, rfl, Nat.le_refl _⟩) fun _ => .of_natives_eq rfl rfl rfl

theorem moves_setIsolation [Remarks R] (c : Nat) (level : Value) : Moves R (setIsolation c level) :=
  moves_emitIdle _ rfl

variable [IsPreorder World R]

theorem moves_sourceField : Moves R sourceField := Moves.get.bind fun _ => .pure _

theorem moves_runner (r : Nat) : Moves R (runner r) := Moves.get.bind fun _ => .pure _

theorem ends_keepsImage (w : World) : ends keepsImage w = (.ok (decide (w.dialect = .sqljs)), w) := rfl

theorem moves_keepsImage : Moves R keepsImage := Moves.get.bind fun _ => .pure _

theorem moves_inTransaction (c : Nat) : Moves R (inTransaction c) := Moves.get.bind fun _ => .pure _

theorem moves_statementFields (sql : Value) (values : List Value) :
    Moves R (statementFields sql values) :=
  Moves.get.bind fun _ => .pure _

/-! ## Notes -/

section
variable [Reports R]

theorem moves_noteProblem (f : Failure) : Moves R (noteProblem f) := by
  unfold noteProblem
  split
  · exact moves_log ..
  · exact .pure _

theorem moves_raise (f : Failure) : Moves R (raise f : Session α) :=
  (moves_noteProblem f).bind fun _ => .throw f

theorem moves_ofResult (r : Result α) : Moves R (ofResult r) := by
  cases r with
  | ok a => exact .pure a
  | error f => exact moves_raise f

/-- A call inside a span does what the call does, and leaves a record of it. -/
theorem moves_traced (t : Tracing) {s : Session α} (hs : Moves R s) : Moves R (traced t s) := by
  have run : Moves R (do
      let r ← attempt s
      if (← get).recordsSpans then emit (.span (t.span "" r))
      MonadExcept.ofExcept r : Session α) :=
    hs.attempt.bind fun _ => Moves.get.bind fun _ => .guarded (moves_emitReport _ rfl) (.ofExcept _)
  unfold traced
  split
  · exact (moves_log ..).bind fun _ => run
  · exact run

/-! ## Hooks and locks -/

theorem moves_callHook (i : Nat) (s : Subscriber) (h : Hook) [hR : Hooked h R] (subject : Option Registered)
    (payload : Value) : Moves R (callHook i s h subject payload) := by
  refine (moves_log ..).bind fun _ => .ite ?_ (.pure _)
  refine (moves_ofResult _).bind fun _ => (moves_emitReport _ rfl).bind fun _ => Moves.get.bind fun w =>
    .bind (.modify fun w => hR.hooked w i) fun _ => ?_
  split
  · exact .throw _
  · exact .pure _

theorem moves_callEach (i : Nat) (s : Subscriber) (h : Hook) [Hooked h R] (subject : Option Registered)
    (payloads : List Value) : Moves R (callEach i s h subject payloads) := by
  induction payloads with
  | nil => exact .pure _
  | cons payload rest ih => exact (moves_callHook ..).bind fun _ => ih

theorem moves_tellFrom (i : Nat) (h : Hook) [Hooked h R] (subject : Option Registered) (payloads : List Value)
    (subscribers : List Subscriber) : Moves R (tellFrom i h subject payloads subscribers) := by
  induction subscribers generalizing i with
  | nil => exact .pure _
  | cons s rest ih =>
    exact (moves_ofResult _).bind fun _ => .guarded (moves_callEach ..) (ih (i + 1))

/-- Subscribers are told, and nothing else happens. -/
theorem moves_broadcast (h : Hook) [Hooked h R] (subject : Option Registered) (payloads : List Value) :
    Moves R (broadcast h subject payloads) :=
  Moves.get.bind fun _ => moves_tellFrom ..

end

theorem moves_takeLock [hR : Locks R] (r : Nat) : Moves R (takeLock r) := by
  refine .modify fun w => ?_
  split
  · exact refl_of R w
  · exact hR.locked w r _

theorem moves_dropLock [hR : Locks R] (r : Nat) : Moves R (dropLock r) := by
  refine Moves.get.bind fun w => .ite ?_ (.pure _)
  exact .guarded (.throw _) (.modify fun v => hR.locked v r _)

theorem moves_holding [Locks R] (r : Nat) {s : Session α} (hs : Moves R s) : Moves R (holding r s) :=
  (moves_takeLock r).bind fun _ => hs.andFinally (moves_dropLock r)

/-! ## Calls on the backend -/

theorem moves_fault_of {site : Site} (h : ∀ (w : World) (rest : List (Option Failure)),
    R w (w.changeBackend fun b => { b with faults := fun s => if s = site then rest else b.faults s })) :
    Moves R (fault site) := by
  refine Moves.get.bind fun w => ?_
  split
  · exact .pure _
  · refine (Moves.modify fun w => h w _).bind fun _ => ?_
    split
    · exact .throw _
    · exact .pure _

/-! ### Idle calls -/

section
variable [hR : Steadies R]

theorem moves_faultIdle (site : Site) (h : site.isIdle = true) : Moves R (fault site) := by
  refine moves_fault_of fun w rest => hR.steadied w _ ⟨fun s hs => if_neg ?_, rfl, Nat.le_refl _⟩
    (.of_natives_eq rfl rfl rfl)
  rintro rfl
  exact Bool.false_ne_true (hs.symm.trans h)

theorem moves_now : Moves R now :=
  .bind (moves_changeSteady _ (fun _ => ⟨fun _ _ => rfl, rfl, Nat.le_refl _⟩) fun _ => .of_natives_eq rfl rfl rfl)
    fun _ => Moves.get.bind fun _ => .pure _

/-- An engine hands a connection out, if nothing fails. -/
theorem moves_connectEngine_of (e : Nat) (h : ∀ w : World, R w (w.changeBackend fun b =>
    { b with connections := (b.connections.add { native := (b.engines.get e).native }).2 })) :
    Moves R (connectEngine e) :=
  (moves_emitIdle _ rfl).bind fun _ => (moves_faultIdle .connect rfl).bind fun _ => ⟨h⟩

/-- A call on a connection is noted, may fail, and changes no more than the connection. -/
theorem moves_connectionCall {e : Event} {site : Site} (he : Moves R (emit e)) (hs : Moves R (fault site)) (c : Nat)
    (f : Connection → Connection) : Moves R (do emit e; fault site; changeConnection c f) :=
  he.bind fun _ => hs.bind fun _ => moves_changeConnection c f

theorem moves_begin (c : Nat) : Moves R (begin c) :=
  moves_connectionCall (moves_emitIdle _ rfl) (moves_faultIdle .begin rfl) ..

theorem moves_nativeExecute (n : Nat) (sql : String) : Moves R (nativeExecute n sql) :=
  (moves_emitIdle _ rfl).bind fun _ => moves_faultIdle .nativeExecute rfl

theorem moves_fetchRowId : Moves R fetchRowId := by
  refine Moves.get.bind fun w => ?_
  split
  · exact Moves.get.bind fun _ => .pure _
  · exact .pure _
  · exact .bind (moves_changeSteady _ (fun _ => ⟨fun _ _ => rfl, rfl, Nat.le_refl _⟩) fun _ =>
      .of_natives_eq rfl rfl rfl) fun _ => .pure _

end

theorem moves_connectEngine [hR : Idles R] (e : Nat) : Moves R (connectEngine e) :=
  moves_connectEngine_of e fun w => hR.changed w _ ⟨fun _ _ => rfl, rfl, Nat.le_succ _⟩

theorem moves_nativeSerialize [hR : Exports R] (n : Nat) : Moves R (nativeSerialize n) :=
  .bind (.modify fun w => hR.imaged w _ rfl) fun _ => (moves_fault_of hR.asked).bind fun _ =>
    Moves.get.bind fun _ => .pure _

/-! ### Statements, and the ends of what they did -/

section
variable [hR : Works R]

theorem moves_fault (site : Site) (h : site ≠ .txCommit) : Moves R (fault site) :=
  moves_fault_of fun w _ => hR.worked w _ (if_neg h.symm) (.of_natives_eq rfl rfl rfl)

theorem moves_commit (c : Nat) : Moves R (commit c) :=
  moves_connectionCall (moves_emitWork _ rfl rfl) (moves_fault .commit nofun) ..

theorem moves_rollback (c : Nat) : Moves R (rollback c) :=
  moves_connectionCall (moves_emitWork _ rfl rfl) (moves_fault .rollback nofun) ..

theorem moves_nextReply : Moves R nextReply := by
  refine Moves.get.bind fun w => ?_
  split
  · exact .pure _
  · exact .bind (moves_changeBackend _ (fun _ => rfl) fun _ => .of_natives_eq rfl rfl rfl) fun _ => .pure _

theorem moves_exec (c : Nat) (sql : Value) (values : List Value) : Moves R (exec c sql values) := by
  refine (moves_emitWork _ rfl rfl).bind fun _ => (moves_changeConnection c _).bind fun _ =>
    moves_nextReply.bind fun reply => ?_
  split
  · exact .throw _
  · refine .guarded (moves_changeBackend _ (fun _ => rfl) fun _ => .of_natives_eq rfl rfl rfl)
      (Moves.get.bind fun w => ?_)
    split
    · exact (moves_afterStatement _).bind fun _ => .pure _
    · exact .pure _

end

theorem moves_txCommit [Steadies R] [hR : Settles R] (c : Nat) : Moves R (txCommit c) :=
  moves_connectionCall (.modify fun w => hR.settled w w.backend _)
    (moves_fault_of fun w _ => hR.settled w _ w.trace) ..

theorem moves_txRollback [Steadies R] [hR : Settles R] (c : Nat) : Moves R (txRollback c) :=
  moves_connectionCall (.modify fun w => hR.settled w w.backend _)
    (moves_fault_of fun w _ => hR.settled w _ w.trace) ..

theorem moves_close [Notes R] [Works R] (c : Nat) : Moves R (close c) :=
  moves_connectionCall (moves_emit _ rfl) (moves_fault .close nofun) ..

end Session

end SqlWeave
