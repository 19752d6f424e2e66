import SqlWeave.Proofs.Session.Refusal

/-!
# The lock of a shared runner

The lock may be taken again while it is held, so what counts is how often it is. A call that takes it and gives it back
leaves that number as it was, unless its body has given back what it had not taken: then the last return fails, and
`outlived` tells that this failure is what the call ends with.
-/

namespace SqlWeave

namespace World

variable {r : Nat} {w v : World}

/-- The world when the lock of runner `r` is taken once more. A server's runner has none. -/
def locked (w : World) (r : Nat) : World :=
  if w.dialect.isNetwork then w else w.setLock r (w.locks r + 1)

/-- The world when the lock is given back once. -/
def unlocked (w : World) (r : Nat) : World :=
  if w.dialect.isNetwork then w else w.setLock r (w.locks r - 1)

/-- What giving the lock of runner `r` back fails with: nobody holds it. -/
def lockFault? (w : World) (r : Nat) : Option Failure :=
  if w.dialect.isNetwork = false ∧ w.locks r = 0 then
    some (.fault "RuntimeError" "cannot release un-acquired lock")
  else none

/-- A lock that was taken can be given back. -/
theorem lockFault?_locked (w : World) (r : Nat) : (w.locked r).lockFault? r = none := by
  unfold lockFault? locked
  split
  · next hnetwork => simp [hnetwork]
  · simp [setLock]

/-! ## How a lock is held -/

/-- The worlds differ in no more than how locks are held. -/
def Relocked (w v : World) : Prop := v = { w with locks := v.locks }

instance : IsPreorder World Relocked where
  refl _ := rfl
  trans u v w huv hvw := by
    unfold Relocked at huv hvw ⊢
    rw [hvw, huv]

instance : Locks Relocked := ⟨fun _ _ _ => rfl⟩

namespace Relocked

theorem runners (h : Relocked w v) : v.runners = w.runners := (congrArg World.runners h :)

theorem dialect (h : Relocked w v) : v.dialect = w.dialect := (congrArg World.dialect h :)

theorem fault? (h : Relocked w v) (site : Site) : v.fault? site = w.fault? site :=
  (congrArg (World.fault? · site) h :)

theorem hook (h : Relocked w v) (g : Hook) : SameHook g w v where
  subscribers := (congrArg World.subscribers h :)
  waiting i := congrFun (congrFun (congrArg World.hookFaults h :) i) g

end Relocked

theorem relocked_locked (w : World) (r : Nat) : Relocked w (w.locked r) := by
  unfold locked
  split <;> rfl

/-- The lock of runner `r` is held equally often, if it has one. -/
structure SameLock (r : Nat) (w v : World) : Prop where
  locks : v.locks r = w.locks r
  dialect : v.dialect = w.dialect

instance : IsPreorder World (SameLock r) where
  refl _ := ⟨rfl, rfl⟩
  trans _ _ _ huv hvw := ⟨hvw.locks.trans huv.locks, hvw.dialect.trans huv.dialect⟩

instance : Runs (SameLock r) where
  logged _ _ := ⟨rfl, rfl⟩
  emitted _ _ _ := ⟨rfl, rfl⟩
  changed _ _ _ := ⟨rfl, rfl⟩
  ran _ _ _ _ := ⟨rfl, rfl⟩
  stored _ _ := ⟨rfl, rfl⟩

instance : Settles (SameLock r) := ⟨fun _ _ _ => ⟨rfl, rfl⟩⟩

instance {h : Hook} : Hooked h (SameLock r) := ⟨fun _ _ => ⟨rfl, rfl⟩⟩

theorem SameLock.lockFault? (h : SameLock r w v) : v.lockFault? r = w.lockFault? r := by
  rw [World.lockFault?, World.lockFault?, h.locks, h.dialect]

/-- What was taken is given back. -/
theorem SameLock.unlocked (h : SameLock r (w.locked r) v) : SameLock r w (v.unlocked r) := by
  have hdialect : v.dialect = w.dialect := by
    rw [h.dialect]
    exact (relocked_locked w r).dialect
  have hlocks := h.locks
  unfold locked at hlocks
  unfold World.unlocked
  rw [hdialect]
  split
  · next hnetwork =>
    rw [if_pos hnetwork] at hlocks
    exact ⟨hlocks, hdialect⟩
  · next hnetwork =>
    refine ⟨?_, hdialect⟩
    rw [if_neg hnetwork] at hlocks
    simp [setLock, hlocks]

end World

namespace Session

open World (Locks)

variable {α : Type} {R : World → World → Prop}

@[simp] theorem ends_takeLock (r : Nat) (w : World) : ends (takeLock r) w = (.ok ⟨⟩, w.locked r) := rfl

theorem moves_locked [Locks R] [IsPreorder World R] (w : World) (r : Nat) : R w (w.locked r) :=
  (moves_takeLock r).along w

/-- Giving a lock back fails when nobody holds it. -/
theorem ends_dropLock (r : Nat) (w : World) : ends (dropLock r) w = (passes (w.lockFault? r), w.unlocked r) := by
  unfold dropLock World.lockFault? World.unlocked
  rw [ends_bind_ok (ends_get w)]
  cases w.dialect.isNetwork with
  | true => rfl
  | false =>
    simp only [Bool.not_false, if_true, true_and, Bool.false_eq_true, if_false]
    by_cases hfree : w.locks r = 0
    · have hsame : w.setLock r (w.locks r - 1) = w := by
        have hlocks : (fun i => if i = r then w.locks r - 1 else w.locks i) = w.locks := by
          funext i
          split
          · next hi => rw [hi, hfree]
          · rfl
        rw [World.setLock, hlocks]
      rw [if_pos hfree, if_pos hfree, hsame]
      rfl
    · rw [if_neg hfree, if_neg hfree]
      rfl

theorem moves_unlocked [Locks R] [IsPreorder World R] (w : World) (r : Nat) : R w (w.unlocked r) := by
  have hdrop : R w (ends (dropLock r) w).2 := (moves_dropLock r).along w
  rwa [ends_dropLock] at hdrop

/-- A call that is made while the lock is held ends as it does, unless it has lost the lock. -/
theorem ends_holding (r : Nat) (s : Session α) (w : World) : ends (holding r s) w =
    (outlived ((ends s (w.locked r)).2.lockFault? r) (ends s (w.locked r)).1, (ends s (w.locked r)).2.unlocked r) := by
  unfold holding
  rw [ends_bind_ok (ends_takeLock r w), ends_andFinally, ends_dropLock]
  cases (ends s (w.locked r)).2.lockFault? r <;> rfl

end Session

end SqlWeave
