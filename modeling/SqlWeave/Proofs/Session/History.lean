import SqlWeave.Proofs.Session.Course

/-!
# The history of a runner

A history is told as the calls that were made on one runner, each with the world in which it began. Between
the calls there may be calm steps, such as those of the builders that make them.
-/

namespace SqlWeave

open Session World

/-- A call on a runner. -/
inductive RunnerCall where
  | query (sql parameters : Value)
  | start (isolation : Value)
  | commit
  | rollback
  | close
  | release

namespace RunnerCall

/-- Makes the call on runner `r`. The outcome of a statement is not kept. -/
def run (r : Nat) : RunnerCall → Session Unit
  | .query sql parameters => do
    let _ ← Session.query r sql parameters
    pure ()
  | .start isolation => startTransaction r isolation
  | .commit => commitTransaction r
  | .rollback => rollbackTransaction r
  | .close => closeConnection r
  | .release => Session.release r

end RunnerCall

/-- A call that was made on a runner, with the world in which it began. -/
structure Deed where
  before : World
  call : RunnerCall

namespace Deed

variable (d : Deed) (r : Nat)

/-- The world that the call has left. -/
def after : World := (ends (d.call.run r) d.before).2

def answer : Result Unit := (ends (d.call.run r) d.before).1

/-- Did the call return, without a failure? -/
def Returned : Prop := d.answer r = .ok ()

/-- What the call has done at the backend, and beside it. -/
def events : List Event := (d.after r).trace.drop d.before.trace.length

end Deed

/-- The calls that were made on runner `r` on the way from one world to the other, in order. -/
inductive History (r : Nat) (w : World) : List Deed → World → Prop
  | start : History r w [] w
  | pause {ds : List Deed} {u v : World} (h : History r w ds u) (hv : Calm r u v) : History r w ds v
  | call {ds : List Deed} {u : World} (h : History r w ds u) (c : RunnerCall) :
    History r w (ds ++ [⟨u, c⟩]) (Deed.after ⟨u, c⟩ r)

variable {r : Nat} {u v w : World}

theorem History.append {xs ys : List Deed} (h : History r u xs v) (h' : History r v ys w) :
    History r u (xs ++ ys) w := by
  induction h' with
  | start =>
    rw [List.append_nil]
    exact h
  | pause _ hv ih => exact .pause ih hv
  | call _ c ih =>
    rw [← List.append_assoc]
    exact .call ih c

/-- The calls of a list, made one after the other. -/
def deedsFrom (r : Nat) : World → List RunnerCall → List Deed
  | _, [] => []
  | w, c :: rest => ⟨w, c⟩ :: deedsFrom r (Deed.after ⟨w, c⟩ r) rest

/-- The world that the calls of a list leave. -/
def worldAfter (r : Nat) (w : World) (calls : List RunnerCall) : World :=
  calls.foldl (fun w c => Deed.after ⟨w, c⟩ r) w

theorem History.of_calls (r : Nat) (w : World) (calls : List RunnerCall) :
    History r w (deedsFrom r w calls) (worldAfter r w calls) := by
  induction calls generalizing w with
  | nil => exact .start
  | cons c rest ih =>
    have hfirst : History r w [⟨w, c⟩] (Deed.after ⟨w, c⟩ r) := .call .start c
    exact hfirst.append (ih _)

/-! ## What each call has done -/

namespace Deed

theorem queries (w : World) (sql parameters : Value) : ∃ x,
    Queries r sql w x (after ⟨w, .query sql parameters⟩ r) ∧
      answer ⟨w, .query sql parameters⟩ r = x.map fun _ => () := by
  have hq := queries_query r sql parameters w
  have hends : ends (RunnerCall.run r (.query sql parameters)) w =
      ((ends (query r sql parameters) w).1.map fun _ => (), (ends (query r sql parameters) w).2) := by
    show ends (query r sql parameters >>= fun _ => pure ()) w = _
    rw [ends_bind]
    rcases ends (query r sql parameters) w with ⟨f | a, v⟩ <;> rfl
  exact ⟨_, by rw [after, hends]; exact hq, by rw [answer, hends]⟩

theorem starts (w : World) (isolation : Value) :
    Starts r w (answer ⟨w, .start isolation⟩ r) (after ⟨w, .start isolation⟩ r) :=
  starts_startTransaction r isolation w

theorem commits (w : World) : Commits r w (answer ⟨w, .commit⟩ r) (after ⟨w, .commit⟩ r) :=
  commits_commitTransaction r w

theorem rollbacks (w : World) : ∃ v, Rollbacks r w v ∧
    Calm r (if w.dialect = .sqljs then v.changeRunner r fun x => { x with dirty := false } else v)
      (after ⟨w, .rollback⟩ r) :=
  rollbacks_rollbackTransaction r w

theorem detaches (w : World) : Detaches r w (after ⟨w, .close⟩ r) := detaches_closeConnection r w

end Deed

/-! ## The transaction that is active -/

/-- Call `k` was made in the transaction that is still active. -/
def OpenSince (r : Nat) (ds : List Deed) (w : World) (k : Nat) : Prop :=
  w.activeAt r = true ∧ k < ds.length ∧ ∀ m d, k ≤ m → ds[m]? = some d → d.before.activeAt r = true

theorem openSince_snoc {ds : List Deed} {d : Deed} {k : Nat} : OpenSince r (ds ++ [d]) v k ↔
    v.activeAt r = true ∧ d.before.activeAt r = true ∧ (k = ds.length ∨ OpenSince r ds d.before k) := by
  unfold OpenSince
  rw [List.length_append, List.length_singleton]
  constructor
  · rintro ⟨hv, hk, hall⟩
    have hd : d.before.activeAt r = true := hall ds.length d (by omega) (by simp)
    refine ⟨hv, hd, ?_⟩
    by_cases hlast : k = ds.length
    · exact .inl hlast
    · refine .inr ⟨hd, by omega, fun m e hm he => hall m e hm ?_⟩
      rw [List.getElem?_append_left (List.getElem?_eq_some_iff.mp he).1]
      exact he
  · rintro ⟨hv, hd, hk⟩
    refine ⟨hv, by rcases hk with rfl | ⟨-, hk, -⟩ <;> omega, fun m e hm he => ?_⟩
    rcases Nat.lt_trichotomy m ds.length with hlt | rfl | hgt
    · rw [List.getElem?_append_left hlt] at he
      rcases hk with rfl | ⟨-, -, hall⟩
      · omega
      · exact hall m e hm he
    · rw [List.getElem?_append_right (Nat.le_refl _), Nat.sub_self] at he
      cases he
      exact hd
    · have hlt := (List.getElem?_eq_some_iff.mp he).1
      rw [List.length_append, List.length_singleton] at hlt
      omega

end SqlWeave
