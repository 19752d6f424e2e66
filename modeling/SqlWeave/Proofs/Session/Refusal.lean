import SqlWeave.Proofs.Session.Delivery
import SqlWeave.Proofs.Session.Standing

/-!
# What hooks and the backend turn down

Whether subscribers let the next event about a transaction pass, and whether the backend lets the next call of a kind
pass, is told by the world alone: `World.refusal?` is the failure of the first hook that fails, and `World.fault?` the
failure that waits at a call on the backend. `World.SameHook` is the preorder of the calls that leave what waits at a
hook as it is.
-/

namespace SqlWeave

namespace World

/-- The failure that telling all subscribers of an event about transactions ends with. -/
def refusal? (w : World) (h : Hook) : Option Failure :=
  (HookCall.planned h none [] w.subscribers).findSome? (·.refusal? w h)

/-- The failure of the next call of a kind on the backend. -/
def fault? (w : World) (site : Site) : Option Failure := (w.backend.faults site).head?.join

theorem Noted.fault? {w v : World} (hn : Noted w v) (site : Site) : v.fault? site = w.fault? site := by
  rw [World.fault?, World.fault?, hn.backend]

/-! ## What waits at a hook -/

/-- The worlds have the subscribers in common, and what waits at hook `h` of each. -/
structure SameHook (h : Hook) (w v : World) : Prop where
  subscribers : v.subscribers = w.subscribers
  waiting : ∀ i, v.hookFaults i h = w.hookFaults i h

variable {h : Hook}

instance : IsPreorder World (SameHook h) where
  refl _ := ⟨rfl, fun _ => rfl⟩
  trans _ _ _ huv hvw :=
    ⟨hvw.subscribers.trans huv.subscribers, fun i => (hvw.waiting i).trans (huv.waiting i)⟩

instance : Runs (SameHook h) where
  logged _ _ := ⟨rfl, fun _ => rfl⟩
  emitted _ _ _ := ⟨rfl, fun _ => rfl⟩
  changed _ _ _ := ⟨rfl, fun _ => rfl⟩
  ran _ _ _ _ := ⟨rfl, fun _ => rfl⟩
  stored _ _ := ⟨rfl, fun _ => rfl⟩

instance : Settles (SameHook h) := ⟨fun _ _ _ => ⟨rfl, fun _ => rfl⟩⟩

instance : Locks (SameHook h) := ⟨fun _ _ _ => ⟨rfl, fun _ => rfl⟩⟩

/-- Calls of a hook take what waits at that hook alone. -/
theorem SameHook.hooked {g : Hook} (hne : h ≠ g) : Hooked g (SameHook h) :=
  ⟨fun _ _ => ⟨rfl, fun _ => if_neg fun hg => hne hg.2⟩⟩

/-- What statements tell of takes nothing that waits at hooks around transactions. -/
theorem SameHook.announces (hh : ¬ h.isEntityHook) : Announces (SameHook h) := by
  refine ⟨fun w i g hg => ?_⟩
  have hne : h ≠ g := fun he => hh (he.symm ▸ hg)
  exact (SameHook.hooked hne).hooked w i

theorem SameHook.refusal? {w v : World} (hs : SameHook h w v) : v.refusal? h = w.refusal? h := by
  have hcall : (fun c : HookCall => c.refusal? v h) = fun c => c.refusal? w h := by
    funext c
    rw [HookCall.refusal?, HookCall.refusal?, hs.waiting]
  rw [World.refusal?, World.refusal?, hs.subscribers, hcall]

end World

namespace Session

/-- A test before a call: it fails with no more than a note, or the call is made. -/
theorem ends_unless {α : Type} (c : Prop) [Decidable c] (f : Failure) (k : PUnit → Session α) (w : World) :
    (c ∧ ∃ v, World.Noted w v ∧ ends (if c then raise f >>= k else k ⟨⟩) w = (.error f, v)) ∨
    (¬ c ∧ ends (if c then raise f >>= k else k ⟨⟩) w = ends (k ⟨⟩) w) := by
  by_cases hc : c
  · obtain ⟨v, hv⟩ := ends_raise (α := PUnit) f w
    have hn : World.Noted w (ends (raise f : Session PUnit) w).2 := (moves_raise f).along w
    rw [hv] at hn
    rw [if_pos hc]
    exact Or.inl ⟨hc, v, hn, ends_bind_error hv⟩
  · rw [if_neg hc]
    exact Or.inr ⟨hc, rfl⟩

/-- A result that is settled is a value, or a failure with no more than a note. -/
theorem ends_ofResult {α : Type} (x : Result α) (w : World) :
    (∃ a, x = .ok a ∧ ends (ofResult x) w = (.ok a, w)) ∨
    (∃ f v, World.Noted w v ∧ x = .error f ∧ ends (ofResult x) w = (.error f, v)) := by
  cases x with
  | ok a => exact Or.inl ⟨a, rfl, rfl⟩
  | error f =>
    obtain ⟨v, hv⟩ := ends_raise (α := α) f w
    have hn : World.Noted w (ends (raise f : Session α) w).2 := (moves_raise f).along w
    rw [hv] at hn
    exact Or.inr ⟨f, v, hn, rfl, hv⟩

/-- Telling of an event about transactions fails as the first hook that fails does. -/
theorem result_broadcast (h : Hook) (w : World) : (ends (broadcast h) w).1 = passes (w.refusal? h) := by
  obtain ⟨made, failure, hmade, hends⟩ := delivers_broadcast h none [] w
  have hfirst : (ends (broadcast h (Option.map .entity none)) w).1 = passes (w.refusal? h) := by
    rw [hends, hmade.failure_eq]
    rfl
  exact hfirst

theorem result_fault (site : Site) (w : World) : (ends (fault site) w).1 = passes (w.fault? site) := by
  unfold fault World.fault?
  rw [ends_bind_ok (ends_get w)]
  rcases w.backend.faults site with _ | ⟨_ | f, rest⟩ <;> rfl

theorem result_txCommit (c : Nat) (w : World) :
    (ends (txCommit c) w).1 = passes (w.fault? .txCommit) := by
  have hn (t : List Event) : World.fault? { w with trace := t } .txCommit = w.fault? .txCommit := rfl
  unfold txCommit
  rw [ends_bind_ok (ends_emit ..), ends_bind, ends_eq_of_result (result_fault .txCommit _), hn]
  cases w.fault? .txCommit <;> rfl

end Session

end SqlWeave
