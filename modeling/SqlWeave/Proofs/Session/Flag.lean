import SqlWeave.Proofs.Session.Lock

/-!
# When a runner's transaction begins and ends

For each operation on the transaction of a runner: when it changes whether a transaction is active. The
conditions are told on the world in which the operation begins. A start that begins a transaction may
still fail, in a hook; a commit that is turned down leaves the transaction active; a rollback is turned
down by a hook alone.
-/

namespace SqlWeave

/-! ## The state of a transaction -/

namespace Runner

/-- The runner when a transaction has begun on connection `c`. -/
def begun (c : Nat) (x : Runner) : Runner := { x with transaction := some c, active := true }

/-- The runner when its transaction is over. -/
def ended (x : Runner) : Runner := { x with transaction := none, active := false }

end Runner

namespace World

/-- Is an explicit transaction of runner `r` active? -/
def activeAt (w : World) (r : Nat) : Bool := (w.runners.get r).active

/-- Does a start, which takes the lock first, get as far as to begin a transaction? -/
def begins (w : World) (r : Nat) (isolation : Value) : Prop :=
  (Session.ends (Session.openTransaction r isolation) (w.locked r)).1 = .ok ()

/-- Is there a transaction of runner `r` that can be ended? -/
def endable (w : World) (r : Nat) : Prop := w.activeAt r ∧ (w.runners.get r).transaction.isSome

/-- Does a commit get as far as to end the transaction? -/
def letsCommit (w : World) (r : Nat) : Prop :=
  w.endable r ∧ w.refusal? .beforeCommit = none ∧ w.fault? .txCommit = none

/-- Does a rollback get as far as to end the transaction? -/
def letsRollback (w : World) (r : Nat) : Prop := w.endable r ∧ w.refusal? .beforeRollback = none

/-- Does giving the runner back close its connection? -/
def closes (w : World) (r : Nat) : Prop := w.dialect.isNetwork ∧ ¬ (w.runners.get r).released

/-- The worlds have the dialect, the subscribers and the released runners in common. -/
structure SameSetting (w v : World) : Prop where
  dialect : v.dialect = w.dialect
  subscribers : v.subscribers = w.subscribers
  released : ∀ r, (v.runners.get r).released = (w.runners.get r).released

variable {r : Nat} {w v : World}

namespace Relocked

/-- How locks are held matters neither for a commit nor for a rollback. -/
theorem letsCommit_iff (h : Relocked w v) (r : Nat) : v.letsCommit r ↔ w.letsCommit r := by
  rw [letsCommit, letsCommit, endable, endable, activeAt, activeAt, h.runners, (h.hook _).refusal?, h.fault?]

theorem letsRollback_iff (h : Relocked w v) (r : Nat) : v.letsRollback r ↔ w.letsRollback r := by
  rw [letsRollback, letsRollback, endable, endable, activeAt, activeAt, h.runners, (h.hook _).refusal?]

end Relocked

instance : IsPreorder World SameSetting where
  refl _ := ⟨rfl, rfl, fun _ => rfl⟩
  trans _ _ _ huv hvw :=
    ⟨hvw.dialect.trans huv.dialect, hvw.subscribers.trans huv.subscribers,
      fun r => (hvw.released r).trans (huv.released r)⟩

theorem SameStanding.setting (h : SameStanding w v) : SameSetting w v :=
  ⟨h.dialect, h.subscribers, h.released⟩

instance : Permits SameStanding SameSetting := ⟨SameStanding.setting⟩

theorem SameSetting.closes_iff (h : SameSetting w v) (r : Nat) : v.closes r ↔ w.closes r := by
  rw [closes, closes, h.dialect, h.released]

theorem SameStanding.activeAt (h : SameStanding w v) (r : Nat) : v.activeAt r = w.activeAt r := h.active r

theorem SameStanding.endable_iff (h : SameStanding w v) (r : Nat) : v.endable r ↔ w.endable r := by
  rw [endable, endable, h.activeAt, h.transaction]

theorem SameCore.of_logs (w : World) (logs : List LogEntry) : SameCore w { w with logs } := rfl

theorem SameCore.standing (h : SameCore w v) : SameStanding w v := .of_sameCore h

theorem activeAt_changeRunner (w : World) (r : Nat) (f : Runner → Runner) :
    (w.changeRunner r f).activeAt r = (f (w.runners.get r)).active := by
  rw [activeAt, changeRunner_get_self]

/-- A change of a runner that does not release it. -/
theorem SameSetting.changeRunner (w : World) (r : Nat) {f : Runner → Runner}
    (h : ∀ x, (f x).released = x.released) : SameSetting w (w.changeRunner r f) where
  dialect := rfl
  subscribers := rfl
  released i := by
    rw [changeRunner_get]
    split
    · exact h _
    · rfl

/-- Changes of a runner that do not release it are steps along `R`, and so is what statements do. -/
class Turns (R : World → World → Prop) : Prop extends Runs R where
  turned : ∀ (w : World) (r : Nat) (f : Runner → Runner), (∀ x, (f x).released = x.released) →
    R w (w.changeRunner r f)

instance : Turns SameSetting where
  turned w r _ h := .changeRunner w r h

instance {h : Hook} : Turns (SameHook h) := ⟨fun _ _ _ _ => ⟨rfl, fun _ => rfl⟩⟩

instance : Turns (SameLock r) := ⟨fun _ _ _ _ => ⟨rfl, rfl⟩⟩

end World

namespace Session

open World (Noted SameCore SameStanding SameSetting SameHook SameLock Reports Steadies Exports Runs Turns Settles
  Hooked Locks)

variable {α : Type} {R : World → World → Prop} {r : Nat} {w : World}

/-! ## What the operations are made of -/

theorem moves_changeUnreleased [hR : Turns R] {f : Runner → Runner} (r : Nat)
    (h : ∀ x, (f x).released = x.released) : Moves R (changeRunner r f) :=
  .modify fun w => hR.turned w r f h

section
variable [IsPreorder World R]

/-- To open a transaction, subscribers are told, a connection is taken, and the transaction is begun on it. -/
theorem moves_openTransaction_of [Steadies R] [Hooked .beforeStart R] (r : Nat) (isolation : Value)
    (hconnect : Moves R (connect r)) (hcommit : ∀ c, Moves R (commit c))
    (hbegun : ∀ c, Moves R (changeRunner r (.begun c))) : Moves R (openTransaction r isolation) := by
  refine (moves_runner r).bind fun x => .guarded (moves_raise _) ?_
  refine (moves_broadcast ..).bind fun _ => hconnect.bind fun c =>
    (moves_inTransaction c).bind fun _ => .guarded (hcommit c) ?_
  exact .guarded (moves_setIsolation ..) ((moves_begin c).bind fun _ => (hbegun c).bind fun _ =>
    moves_sourceField.bind fun _ => moves_log ..)

theorem moves_startOnly_of [Reports R] [Hooked .afterStart R] (r : Nat) (isolation : Value)
    (hopen : Moves R (openTransaction r isolation)) : Moves R (startOnly r isolation) :=
  hopen.bind fun _ => moves_broadcast ..

/-- A start holds the lock of the runner, and gives it back when it fails. -/
theorem moves_startTransaction_of [Reports R] [Locks R] [Hooked .afterStart R] (r : Nat) (isolation : Value)
    (hopen : Moves R (openTransaction r isolation)) : Moves R (startTransaction r isolation) := by
  refine (moves_takeLock r).bind fun _ => (moves_startOnly_of r isolation hopen).attempt.bind fun result => ?_
  cases result with
  | ok a => exact .pure _
  | error f => exact (moves_dropLock r).bind fun _ => .throw f

theorem turns_openTransaction [Turns R] [Hooked .beforeStart R] (r : Nat) (isolation : Value) :
    Moves R (openTransaction r isolation) :=
  moves_openTransaction_of r isolation (moves_connect r) moves_commit fun _ => moves_changeUnreleased r fun _ => rfl

theorem turns_startOnly [Turns R] [Hooked .beforeStart R] [Hooked .afterStart R] (r : Nat) (isolation : Value) :
    Moves R (startOnly r isolation) :=
  moves_startOnly_of r isolation (turns_openTransaction r isolation)

theorem turns_startTransaction [Turns R] [Locks R] [Hooked .beforeStart R] [Hooked .afterStart R] (r : Nat)
    (isolation : Value) : Moves R (startTransaction r isolation) :=
  moves_startTransaction_of r isolation (turns_openTransaction r isolation)

theorem moves_activeTransaction [Reports R] (r : Nat) : Moves R (activeTransaction r) := by
  refine (moves_runner r).bind fun x => ?_
  split
  · exact .pure _
  · exact moves_raise _

/-- The ending part of a commit tells subscribers and the backend. -/
theorem moves_endByCommit_of [Reports R] [Hooked .beforeCommit R] (r : Nat) (hcommit : ∀ c, Moves R (txCommit c))
    (hended : Moves R (changeRunner r .ended)) : Moves R (endByCommit r) :=
  (moves_activeTransaction r).bind fun c => (moves_broadcast ..).bind fun _ => (hcommit c).bind fun _ =>
    hended.bind fun _ => moves_sourceField.bind fun _ => moves_log ..

theorem turns_endByCommit [Turns R] [Settles R] [Hooked .beforeCommit R] (r : Nat) : Moves R (endByCommit r) :=
  moves_endByCommit_of r moves_txCommit (moves_changeUnreleased r fun _ => rfl)

theorem turns_commitOnly [Turns R] [Settles R] [Hooked .beforeCommit R] [Hooked .afterCommit R] (r : Nat) :
    Moves R (commitOnly r) :=
  (turns_endByCommit r).bind fun _ => moves_broadcast ..

theorem moves_commitOnly_of [Reports R] [Hooked .beforeCommit R] [Hooked .afterCommit R] (r : Nat)
    (hcommit : ∀ c, Moves R (txCommit c)) (hended : Moves R (changeRunner r .ended)) : Moves R (commitOnly r) :=
  (moves_endByCommit_of r hcommit hended).bind fun _ => moves_broadcast ..

/-- A commit ends the transaction, gives the lock back, and hands the changes over. -/
theorem moves_commitTransaction_of [Exports R] [Locks R] [Hooked .beforeCommit R] [Hooked .afterCommit R] (r : Nat)
    (hcommit : ∀ c, Moves R (txCommit c)) (hended : Moves R (changeRunner r .ended))
    (hclean : Moves R (changeRunner r fun x => { x with dirty := false })) : Moves R (commitTransaction r) := by
  have hover : Moves R (commitOnly r) := moves_commitOnly_of r hcommit hended
  refine moves_keepsImage.bind fun _ => .ite (moves_holding r ?_) (hover.bind fun _ => moves_dropLock r)
  exact hover.bind fun _ => (moves_dropLock r).bind fun _ => moves_flush_of r hclean

theorem turns_commitTransaction [Turns R] [Settles R] [Locks R] [Hooked .beforeCommit R] [Hooked .afterCommit R]
    (r : Nat) : Moves R (commitTransaction r) :=
  moves_commitTransaction_of r moves_txCommit (moves_changeUnreleased r fun _ => rfl)
    (moves_changeUnreleased r fun _ => rfl)

/-- The ending part of a rollback tells subscribers and the backend. -/
theorem moves_endByRollback_of [Reports R] [Hooked .beforeRollback R] (r : Nat)
    (hrollback : ∀ c, Moves R (txRollback c)) (hended : Moves R (changeRunner r .ended)) : Moves R (endByRollback r) :=
  (moves_activeTransaction r).bind fun c => (moves_broadcast ..).bind fun _ =>
    (Moves.andFinally (hrollback c) hended).bind fun _ => moves_sourceField.bind fun _ => moves_log ..

theorem moves_rollbackOnly_of [Reports R] [Hooked .beforeRollback R] [Hooked .afterRollback R] (r : Nat)
    (hrollback : ∀ c, Moves R (txRollback c)) (hended : Moves R (changeRunner r .ended)) : Moves R (rollbackOnly r) :=
  (moves_endByRollback_of r hrollback hended).bind fun _ => moves_broadcast ..

theorem turns_rollbackOnly [Turns R] [Settles R] [Hooked .beforeRollback R] [Hooked .afterRollback R] (r : Nat) :
    Moves R (rollbackOnly r) :=
  moves_rollbackOnly_of r moves_txRollback (moves_changeUnreleased r fun _ => rfl)

/-- A rollback ends the transaction and gives the lock back. -/
theorem moves_rollbackTransaction_of [Reports R] [Locks R] [Hooked .beforeRollback R] [Hooked .afterRollback R]
    (r : Nat) (hrollback : ∀ c, Moves R (txRollback c)) (hended : Moves R (changeRunner r .ended))
    (hclean : Moves R (changeRunner r fun x => { x with dirty := false })) : Moves R (rollbackTransaction r) := by
  have hunlock : Moves R (rollbackAndUnlock r) :=
    (moves_runner r).bind fun _ => (moves_rollbackOnly_of r hrollback hended).andFinally
      ((moves_runner r).bind fun _ => .ite (moves_dropLock r) (.pure _))
  exact moves_keepsImage.bind fun _ => .ite (moves_holding r (hunlock.andFinally hclean)) hunlock

theorem turns_rollbackTransaction [Turns R] [Settles R] [Locks R] [Hooked .beforeRollback R] [Hooked .afterRollback R]
    (r : Nat) : Moves R (rollbackTransaction r) :=
  moves_rollbackTransaction_of r moves_txRollback (moves_changeUnreleased r fun _ => rfl)
    (moves_changeUnreleased r fun _ => rfl)

end

/-! ## Starting -/

/-- What keeps every runner's standing does not matter for the flag. -/
theorem activeAt_bind {β : Type} {s : Session α} {k : α → Session β}
    (hk : ∀ a, Moves SameStanding (k a)) (w : World) :
    (ends (s >>= k) w).2.activeAt r = (ends s w).2.activeAt r := by
  rw [ends_bind]
  rcases ends s w with ⟨f | a, v⟩
  · rfl
  · exact ((hk a).along v).activeAt r

/-- Where opening a transaction ends: with a transaction that has begun, or with nothing changed. -/
def Opens (r : Nat) (w : World) : Result Unit × World → Prop
  | (.ok _, v) => ∃ c u, SameStanding w u ∧ SameCore (u.changeRunner r (.begun c)) v
  | (.error _, v) => SameStanding w v

namespace Opens

theorem of_standing {v : World} {p : Result Unit × World} (h : SameStanding w v) (hp : Opens r v p) :
    Opens r w p := by
  rcases p with ⟨f | a, u⟩
  · exact trans_of SameStanding h hp
  · obtain ⟨c, x, hx, hu⟩ := hp
    exact ⟨c, x, trans_of SameStanding h hx, hu⟩

theorem bind {s : Session α} {k : α → Session Unit} (hs : Moves SameStanding s)
    (hk : ∀ a v, Opens r v (ends (k a) v)) : Opens r w (ends (s >>= k) w) := by
  have hw := hs.along w
  rw [ends_bind]
  rcases h : ends s w with ⟨f | a, v⟩
  · rw [h] at hw
    exact hw
  · rw [h] at hw
    exact of_standing hw (hk a v)

theorem guarded {c : Prop} [Decidable c] {s : Session PUnit} {k : PUnit → Session Unit}
    (hs : Moves SameStanding s) (hk : ∀ v, Opens r v (ends (k ⟨⟩) v)) :
    Opens r w (ends (if c then s >>= k else k ⟨⟩) w) := by
  split
  · exact bind hs fun _ => hk
  · exact hk w

end Opens

theorem opens_openTransaction (r : Nat) (isolation : Value) (w : World) :
    Opens r w (ends (openTransaction r isolation) w) := by
  unfold openTransaction
  refine .bind (moves_runner r) fun x w => .guarded (moves_raise _) fun w => ?_
  refine .bind (moves_broadcast ..) fun _ w => .bind (moves_connect r) fun c w => ?_
  refine .bind (moves_inTransaction c) fun _ w => .guarded (moves_commit c) fun w => ?_
  refine .guarded (moves_setIsolation ..) fun w => .bind (moves_begin c) fun _ w => ?_
  exact ⟨c, w, refl_of SameStanding w, rfl⟩

/-- A connection is only ever checked out by a runner that was not released. -/
theorem released_of_connect {c : Nat} {v : World} (h : ends (connect r) w = (.ok c, v)) :
    (w.runners.get r).released = false := by
  unfold connect at h
  rw [ends_bind_ok (ends_runner r w)] at h
  exact Bool.eq_false_iff.mpr (of_ends_unless_ok h).1

theorem inactive_of_begins {isolation : Value} (h : w.begins r isolation) : w.activeAt r = false := by
  unfold World.begins openTransaction at h
  rw [ends_bind_ok (ends_runner r _), (World.relocked_locked w r).runners] at h
  exact Bool.eq_false_iff.mpr (of_ends_unless_ok (ends_eq_of_result h)).1

theorem unreleased_of_begins {isolation : Value} (h : w.begins r isolation) :
    (w.runners.get r).released = false := by
  unfold World.begins openTransaction at h
  rw [ends_bind_ok (ends_runner r _)] at h
  obtain ⟨-, h⟩ := of_ends_unless_ok (ends_eq_of_result h)
  obtain ⟨_, v, hb, h⟩ := of_ends_bind_ok h
  obtain ⟨c, _, hc, -⟩ := of_ends_bind_ok h
  have hv : SameStanding (w.locked r) v := Moves.of_ends (moves_broadcast ..) hb
  rw [← (World.relocked_locked w r).runners, ← hv.released r]
  exact released_of_connect hc

/-- A start keeps the lock that it takes, unless it fails. -/
theorem ends_startTransaction (r : Nat) (isolation : Value) (w : World) :
    ends (startTransaction r isolation) w =
      match ends (startOnly r isolation) (w.locked r) with
      | (.ok _, v) => (.ok ⟨⟩, v)
      | (.error f, v) => (.error f, v.unlocked r) := by
  unfold startTransaction
  rw [ends_bind_ok (ends_takeLock r w), ends_bind_ok (ends_attempt ..)]
  rcases hstart : ends (startOnly r isolation) (w.locked r) with ⟨f | a, v⟩
  · have hlock : SameLock r (w.locked r) v := (turns_startOnly r isolation).of_ends hstart
    have hdrop : ends (dropLock r) v = (.ok ⟨⟩, v.unlocked r) := by
      rw [ends_dropLock, hlock.lockFault?, World.lockFault?_locked]
      rfl
    exact ends_bind_ok hdrop
  · rfl

/-- How a start ends, and what it leaves. -/
theorem startTransaction_cases (r : Nat) (isolation : Value) (w : World) :
    (w.begins r isolation ∧ ∃ c u v, SameStanding w u ∧ SameCore (u.changeRunner r (.begun c)) v ∧
      ends (startTransaction r isolation) w = (passes (w.refusal? .afterStart), v)) ∨
    (¬ w.begins r isolation ∧ ∃ f v, SameStanding w v ∧
      ends (startTransaction r isolation) w = (.error f, v)) := by
  have ho := opens_openTransaction r isolation (w.locked r)
  have hooked : Hooked .beforeStart (SameHook .afterStart) := SameHook.hooked (by decide)
  have hlocked : SameStanding w (w.locked r) := moves_locked w r
  rw [ends_startTransaction]
  unfold startOnly World.begins
  -- Opening changes the flag last, so a failure before that leaves it as it was; the hook comes after.
  rcases h : ends (openTransaction r isolation) (w.locked r) with ⟨f | a, u⟩
  · rw [h] at ho
    rw [ends_bind_error h]
    exact .inr ⟨nofun, f, _, trans_of SameStanding hlocked (trans_of SameStanding ho (moves_unlocked u r)), rfl⟩
  · rw [h] at ho
    obtain ⟨c, x, hx, hu⟩ := ho
    have hhook : SameHook .afterStart w u :=
      trans_of (SameHook .afterStart) (moves_locked w r) ((turns_openTransaction r isolation).of_ends h)
    have hb := ends_eq_of_result (result_broadcast .afterStart u)
    have hv : SameCore u (ends (broadcast .afterStart) u).2 := (moves_broadcast ..).along u
    rw [hhook.refusal?] at hb
    rw [ends_bind_ok h, hb]
    generalize (ends (broadcast .afterStart) u).2 = v at hv
    have hbegun : SameCore (x.changeRunner r (.begun c)) v := trans_of SameCore hu hv
    have hstanding : SameStanding w x := trans_of SameStanding hlocked hx
    cases w.refusal? .afterStart with
    | none => exact .inl ⟨rfl, c, x, v, hstanding, hbegun, rfl⟩
    | some f => exact .inl ⟨rfl, c, x, _, hstanding, trans_of SameCore hbegun (moves_unlocked v r), rfl⟩

/-! ## Committing -/

/-- An operation that needs an active transaction finds its connection exactly when there is one. -/
theorem activeTransaction_cases (r : Nat) (w : World) :
    (w.endable r ∧ ∃ c, ends (activeTransaction r) w = (.ok c, w)) ∨
    (¬ w.endable r ∧ ∃ f v, SameStanding w v ∧ ends (activeTransaction r) w = (.error f, v)) := by
  unfold activeTransaction World.endable World.activeAt
  rw [ends_bind_ok (ends_runner r w)]
  rcases ha : (w.runners.get r).active with _ | _ <;>
    rcases ht : (w.runners.get r).transaction with _ | c
  case true.some => exact Or.inl ⟨by simp, c, rfl⟩
  -- In the other cases the same failure is raised, which leaves no more than a log record.
  all_goals
    obtain ⟨v, hv⟩ := ends_raise (α := Nat) (.problem .transactionInactive none) w
    have hs : SameStanding w (ends (raise (α := Nat) (.problem .transactionInactive none)) w).2 :=
      (moves_raise _).along w
    rw [hv] at hs
    exact Or.inr ⟨by simp, _, v, hs, hv⟩

theorem transaction_of_activeTransaction {c : Nat} {v : World} (h : ends (activeTransaction r) w = (.ok c, v)) :
    w.activeAt r = true ∧ (w.runners.get r).transaction = some c ∧ v = w := by
  unfold activeTransaction at h
  rw [ends_bind_ok (ends_runner r w)] at h
  split at h
  case h_1 ha ht =>
    cases h
    exact ⟨ha, ht, rfl⟩
  case h_2 =>
    obtain ⟨u, hu⟩ := ends_raise (α := Nat) (.problem .transactionInactive none) w
    rw [hu] at h
    cases h

/-- How the ending part of a commit ends, and what it leaves. -/
theorem endByCommit_cases (r : Nat) (w : World) :
    (w.letsCommit r ∧ ∃ u v, SameStanding w u ∧ SameCore (u.changeRunner r .ended) v ∧
      ends (endByCommit r) w = (.ok (), v)) ∨
    (¬ w.letsCommit r ∧ ∃ f v, SameStanding w v ∧ ends (endByCommit r) w = (.error f, v)) := by
  unfold endByCommit World.letsCommit
  rcases activeTransaction_cases r w with ⟨he, c, hc⟩ | ⟨he, f, v, hs, hf⟩
  case inr => exact Or.inr ⟨fun h => he h.1, f, v, hs, ends_bind_error hf⟩
  rw [ends_bind_ok hc]
  have hb := ends_eq_of_result (result_broadcast .beforeCommit w)
  have hn : Noted w (ends (broadcast .beforeCommit) w).2 := (moves_broadcast ..).along w
  generalize (ends (broadcast .beforeCommit) w).2 = u at hb hn
  rcases hr : w.refusal? .beforeCommit with _ | f
  case some =>
    rw [hr] at hb
    exact Or.inr ⟨by simp, f, u, hn.sameCore.standing, ends_bind_error hb⟩
  rw [hr] at hb
  rw [ends_bind_ok hb]
  have hx := ends_eq_of_result (result_txCommit c u)
  have hs : SameStanding u (ends (txCommit c) u).2 := (moves_txCommit c).along u
  rw [hn.fault?] at hx
  generalize (ends (txCommit c) u).2 = v at hx hs
  have hwv : SameStanding w v := trans_of SameStanding hn.sameCore.standing hs
  rcases hf : w.fault? .txCommit with _ | f
  · rw [hf] at hx
    refine Or.inl ⟨⟨he, rfl, rfl⟩, v, _, hwv, ?_, by rw [ends_bind_ok hx]; rfl⟩
    exact World.SameCore.of_logs ..
  · rw [hf] at hx
    exact Or.inr ⟨by simp, f, v, hwv, ends_bind_error hx⟩

theorem commitOnly_cases (r : Nat) (w : World) :
    (w.letsCommit r ∧ (ends (commitOnly r) w).2.activeAt r = false) ∨
    (¬ w.letsCommit r ∧ ∃ f v, SameStanding w v ∧ ends (commitOnly r) w = (.error f, v)) := by
  unfold commitOnly
  rcases endByCommit_cases r w with ⟨hl, u, v, -, hv, he⟩ | ⟨hl, f, v, hs, he⟩
  · refine .inl ⟨hl, ?_⟩
    rw [activeAt_bind fun _ => moves_broadcast .., he, hv.standing.activeAt, World.activeAt_changeRunner]
    rfl
  · exact .inr ⟨hl, f, v, hs, ends_bind_error he⟩

/-- Where an image is kept, a commit is made while the lock is held, and hands the changes over. -/
theorem ends_commitTransaction (r : Nat) (w : World) : ends (commitTransaction r) w =
    if w.dialect = .sqljs then ends (holding r do commitOnly r; dropLock r; flush r) w
    else ends (do commitOnly r; dropLock r) w := by
  unfold commitTransaction
  rw [ends_bind_ok (ends_keepsImage w)]
  by_cases hd : w.dialect = .sqljs
  · rw [if_pos (decide_eq_true hd), if_pos hd]
  · rw [if_neg (decide_eq_true_iff.not.mpr hd), if_neg hd]

/-- A commit ends the transaction when it gets that far, whether or not it fails afterwards; otherwise
it fails and leaves the transaction as it was. -/
theorem commitTransaction_cases (r : Nat) (w : World) :
    (w.letsCommit r ∧ (ends (commitTransaction r) w).2.activeAt r = false) ∨
    (¬ w.letsCommit r ∧ ∃ f v, SameStanding w v ∧ ends (commitTransaction r) w = (.error f, v)) := by
  rw [ends_commitTransaction]
  split
  case isTrue =>
    have hrest : Moves SameStanding (do dropLock r; flush r) := (moves_dropLock r).bind fun _ => moves_flush r
    have hstanding (v : World) : SameStanding v (v.unlocked r) := moves_unlocked v r
    rw [ends_holding]
    rcases commitOnly_cases r (w.locked r) with ⟨hl, ha⟩ | ⟨hl, f, v, hs, he⟩
    · refine .inl ⟨((World.relocked_locked w r).letsCommit_iff r).mp hl, ((hstanding _).activeAt r).trans ?_⟩
      rw [activeAt_bind fun _ => hrest, ha]
    · rw [ends_bind_error he]
      obtain ⟨g, hg⟩ := outlived_error (α := Unit) (v.lockFault? r) f
      refine .inr ⟨((World.relocked_locked w r).letsCommit_iff r).not.mp hl, g, v.unlocked r, ?_, by rw [← hg]⟩
      exact trans_of SameStanding (moves_locked w r) (trans_of SameStanding hs (hstanding v))
  case isFalse =>
    rcases commitOnly_cases r w with ⟨hl, ha⟩ | ⟨hl, f, v, hs, he⟩
    · exact .inl ⟨hl, (activeAt_bind (fun _ => moves_dropLock r) w).trans ha⟩
    · exact .inr ⟨hl, f, v, hs, ends_bind_error he⟩

/-! ## Rolling back -/

/-- A rollback ends the transaction when no hook stops it, whether or not the backend rolls back;
otherwise it fails and leaves the transaction as it was. -/
theorem endByRollback_cases (r : Nat) (w : World) :
    (w.letsRollback r ∧ (ends (endByRollback r) w).2.activeAt r = false) ∨
    (¬ w.letsRollback r ∧ ∃ f v, SameStanding w v ∧ ends (endByRollback r) w = (.error f, v)) := by
  unfold endByRollback World.letsRollback
  rcases activeTransaction_cases r w with ⟨he, c, hc⟩ | ⟨he, f, v, hs, hf⟩
  case inr => exact Or.inr ⟨fun h => he h.1, f, v, hs, ends_bind_error hf⟩
  rw [ends_bind_ok hc]
  have hb := ends_eq_of_result (result_broadcast .beforeRollback w)
  have hn : Noted w (ends (broadcast .beforeRollback) w).2 := (moves_broadcast ..).along w
  generalize (ends (broadcast .beforeRollback) w).2 = u at hb hn
  rcases hr : w.refusal? .beforeRollback with _ | f
  case some =>
    rw [hr] at hb
    exact Or.inr ⟨by simp, f, u, hn.sameCore.standing, ends_bind_error hb⟩
  rw [hr] at hb
  refine Or.inl ⟨⟨he, rfl⟩, ?_⟩
  rw [ends_bind_ok hb, ends_bind, ends_andFinally]
  -- The flag is cleared in every case, so the answer of the backend does not matter.
  rcases ends (txRollback c) u with ⟨f | a, v⟩
  all_goals
    show (v.changeRunner r _).activeAt r = false
    rw [World.activeAt_changeRunner]

theorem rollbackOnly_cases (r : Nat) (w : World) :
    (w.letsRollback r ∧ (ends (rollbackOnly r) w).2.activeAt r = false) ∨
    (¬ w.letsRollback r ∧ ∃ f v, SameStanding w v ∧ ends (rollbackOnly r) w = (.error f, v)) := by
  unfold rollbackOnly
  rcases endByRollback_cases r w with ⟨hl, ha⟩ | ⟨hl, f, v, hs, he⟩
  · refine Or.inl ⟨hl, ?_⟩
    rw [ends_bind]
    rcases h : ends (endByRollback r) w with ⟨f | a, v⟩
    · rwa [h] at ha
    · rw [h] at ha
      have hb : SameStanding v (ends (broadcast .afterRollback) v).2 := (moves_broadcast ..).along v
      exact (hb.activeAt r).trans ha
  · exact Or.inr ⟨hl, f, v, hs, ends_bind_error he⟩

/-- A rollback gives the lock back when it has ended the transaction. -/
theorem ends_rollbackAndUnlock (r : Nat) (w : World) : ends (rollbackAndUnlock r) w =
    if w.activeAt r && !(ends (rollbackOnly r) w).2.activeAt r then
      (outlived ((ends (rollbackOnly r) w).2.lockFault? r) (ends (rollbackOnly r) w).1,
        (ends (rollbackOnly r) w).2.unlocked r)
    else ends (rollbackOnly r) w := by
  unfold rollbackAndUnlock World.activeAt
  rw [ends_bind_ok (ends_runner r w), ends_andFinally, ends_bind_ok (ends_runner r _)]
  by_cases hover : ((w.runners.get r).active && !((ends (rollbackOnly r) w).2.runners.get r).active) = true
  · rw [if_pos hover, if_pos hover, ends_dropLock]
    cases (ends (rollbackOnly r) w).2.lockFault? r <;> rfl
  · rw [if_neg hover, if_neg hover]
    rfl

theorem rollbackAndUnlock_cases (r : Nat) (w : World) :
    (w.letsRollback r ∧ (ends (rollbackAndUnlock r) w).2.activeAt r = false) ∨
    (¬ w.letsRollback r ∧ ∃ f v, SameStanding w v ∧ ends (rollbackAndUnlock r) w = (.error f, v)) := by
  rw [ends_rollbackAndUnlock]
  rcases rollbackOnly_cases r w with ⟨hl, ha⟩ | ⟨hl, f, v, hs, he⟩
  · refine .inl ⟨hl, ?_⟩
    have hunlocked : SameStanding (ends (rollbackOnly r) w).2 _ := moves_unlocked _ r
    rw [hl.1.1, ha]
    exact (hunlocked.activeAt r).trans ha
  · -- The transaction is as active as it was, so the lock is kept.
    rw [he, hs.activeAt, Bool.and_not_self]
    exact .inr ⟨hl, f, v, hs, rfl⟩

/-- Where an image is kept, a rollback is made while the lock is held, and clears the mark for the automatic save. -/
theorem ends_rollbackTransaction (r : Nat) (w : World) : ends (rollbackTransaction r) w =
    if w.dialect = .sqljs then
      ends (holding r (andFinally (rollbackAndUnlock r) (changeRunner r fun x => { x with dirty := false }))) w
    else ends (rollbackAndUnlock r) w := by
  unfold rollbackTransaction
  rw [ends_bind_ok (ends_keepsImage w)]
  by_cases hd : w.dialect = .sqljs
  · rw [if_pos (decide_eq_true hd), if_pos hd]
  · rw [if_neg (decide_eq_true_iff.not.mpr hd), if_neg hd]

theorem rollbackTransaction_cases (r : Nat) (w : World) :
    (w.letsRollback r ∧ (ends (rollbackTransaction r) w).2.activeAt r = false) ∨
    (¬ w.letsRollback r ∧ ∃ f v, SameStanding w v ∧ ends (rollbackTransaction r) w = (.error f, v)) := by
  rw [ends_rollbackTransaction]
  split
  case isFalse => exact rollbackAndUnlock_cases r w
  rw [ends_holding, ends_andFinally, ends_changeRunner]
  have hstanding (v : World) : SameStanding v ((v.changeRunner r fun x => { x with dirty := false }).unlocked r) := by
    refine trans_of SameStanding ?_ (moves_unlocked _ r)
    exact .changeRunner v r fun _ => rfl
  rcases rollbackAndUnlock_cases r (w.locked r) with ⟨hl, ha⟩ | ⟨hl, f, v, hs, he⟩
  · exact .inl ⟨((World.relocked_locked w r).letsRollback_iff r).mp hl, ((hstanding _).activeAt r).trans ha⟩
  · rw [he]
    obtain ⟨g, hg⟩ := outlived_error (α := Unit) ((v.changeRunner r fun x => { x with dirty := false }).lockFault? r) f
    refine .inr ⟨((World.relocked_locked w r).letsRollback_iff r).not.mp hl, g, _, ?_, by rw [← hg]⟩
    exact trans_of SameStanding (moves_locked w r) (trans_of SameStanding hs (hstanding v))

/-! ## Giving back -/

/-- Closing a connection forgets the transaction, whether or not the backend closes it. -/
theorem activeAt_closeConnection (r : Nat) (w : World) :
    (ends (closeConnection r) w).2.activeAt r = false := by
  have ha (c : Nat) (v : World) : (ends (close c) v).2.activeAt r = v.activeAt r := by
    have h : SameStanding v (ends (close c) v).2 := (moves_close c).along v
    exact h.activeAt r
  unfold closeConnection
  rw [ends_bind_ok (ends_runner r w), ends_bind_ok (ends_changeRunner ..)]
  cases (w.runners.get r).connection with
  | none => exact World.activeAt_changeRunner ..
  | some c => exact (ha c _).trans (World.activeAt_changeRunner ..)

/-- Giving the shared runner of a database with an image back does no more than to hand its changes over. -/
theorem standing_release (hd : w.dialect = .sqljs) (r : Nat) : SameStanding w (ends (release r) w).2 := by
  unfold release
  rw [ends_bind_ok (ends_get w), hd]
  exact ((moves_runner r).bind fun _ => .ite (moves_flush r) (.pure _)).along w

/-- Giving a runner back ends its transaction exactly when it closes the connection. -/
theorem activeAt_release (r : Nat) (w : World) :
    ((ends (release r) w).2.activeAt r = true) ↔ (w.activeAt r = true ∧ ¬ w.closes r) := by
  unfold World.closes
  cases hd : w.dialect
  case sqljs => simp [(standing_release hd r).activeAt r, Dialect.isNetwork]
  all_goals
    unfold release
    rw [ends_bind_ok (ends_get w), hd]
  case sqlite => simp [Dialect.isNetwork]
  all_goals
    simp only [ends_bind_ok (ends_runner r w)]
    cases hr : (w.runners.get r).released
    · simp only [Bool.not_false, if_true, ends_bind_ok (ends_changeRunner ..), activeAt_closeConnection]
      simp [Dialect.isNetwork]
    · simp

/-! ## The flag after each operation -/

theorem activeAt_commitTransaction (r : Nat) (w : World) :
    (ends (commitTransaction r) w).2.activeAt r = true ↔ w.activeAt r = true ∧ ¬ w.letsCommit r := by
  rcases commitTransaction_cases r w with ⟨hl, ha⟩ | ⟨hl, f, v, hs, he⟩
  · simp [hl, ha]
  · rw [he, hs.activeAt]
    simp [hl]

theorem activeAt_rollbackTransaction (r : Nat) (w : World) :
    (ends (rollbackTransaction r) w).2.activeAt r = true ↔
      w.activeAt r = true ∧ ¬ w.letsRollback r := by
  rcases rollbackTransaction_cases r w with ⟨hl, ha⟩ | ⟨hl, f, v, hs, he⟩
  · simp [hl, ha]
  · rw [he, hs.activeAt]
    simp [hl]

/-! ## What all of them leave alone -/

theorem moves_startTransaction (r : Nat) (isolation : Value) :
    Moves SameSetting (startTransaction r isolation) :=
  turns_startTransaction r isolation

theorem moves_commitTransaction (r : Nat) : Moves SameSetting (commitTransaction r) :=
  turns_commitTransaction r

theorem moves_rollbackTransaction (r : Nat) : Moves SameSetting (rollbackTransaction r) :=
  turns_rollbackTransaction r

end Session

end SqlWeave
