import Mathlib.Algebra.Order.Field.Rat
import Mathlib.Algebra.Order.GroupWithZero.Basic
import Mathlib.Tactic.Linarith
import SqlWeave.Retry.Policy

/-!
# The schedule of tries

A call that fails is tried again after a delay. Here a run is watched: each call is entered with how it ended, and each
delay between two calls. The delays are told by a recurrence, since each is made from the one before it. Main result:
which calls are made, and how long every delay lasts, in closed form. The largest delay caps what a delay has grown
to and not the first one, so the delays are `min (initial * base ^ k) largest` exactly when the first one is
not longer than the largest, or when there is none.
-/

namespace SqlWeave.Backoff

variable {δ α β : Type}

/-! ## Runs that are watched -/

/-- What can be seen of a run. -/
inductive Moment (δ α : Type) where
  | called (outcome : Result α)
  /-- Try number `n` failed, and another one is announced. -/
  | announced (n : Nat) (f : Failure) (delay : δ)
  | slept (delay : δ)
  /-- The last of `n` tries failed. -/
  | gaveUp (n : Nat)

/-- What was seen of a run so far. -/
structure Observed (δ α : Type) where
  calls : Nat := 0
  moments : List (Moment δ α) := []

def Observed.add (o : Observed δ α) (m : Moment δ α) : Observed δ α := { o with moments := o.moments ++ [m] }

abbrev Watched (δ α : Type) := ExceptT Failure (StateM (Observed δ α))

/-- A call that ends the `n`-th time as `outcomes n` says. -/
def watchedCall (outcomes : Nat → Result α) : Watched δ α α := do
  let n := (← get).calls
  modify fun o => { o.add (.called (outcomes n)) with calls := n + 1 }
  MonadExcept.ofExcept (outcomes n)

def watchedHooks : Hooks δ (Watched δ α) where
  again n f delay := modify (·.add (.announced n f delay))
  exhausted n := modify (·.add (.gaveUp n))
  sleep delay := modify (·.add (.slept delay))

/-- How a watched run ends, and what was seen of it. -/
def seen (run : Watched δ α β) (o : Observed δ α) : Result β × Observed δ α := StateT.run (ExceptT.run run) o

theorem seen_bind {γ : Type} (run : Watched δ α β) (k : β → Watched δ α γ) (o : Observed δ α) :
    seen (run >>= k) o = match seen run o with
      | (.ok a, o') => seen (k a) o'
      | (.error f, o') => (.error f, o') := by
  simp only [seen, ExceptT.run_bind, StateT.run_bind]
  rcases h : StateT.run (ExceptT.run run) o with ⟨_ | _, _⟩ <;> rfl

theorem seen_tryCatch (run : Watched δ α β) (handle : Failure → Watched δ α β) (o : Observed δ α) :
    seen (tryCatchThe Failure run handle) o = match seen run o with
      | (.ok a, o') => (.ok a, o')
      | (.error f, o') => seen (handle f) o' := by
  have hbind (k : Result β → StateM (Observed δ α) (Result β)) :
      StateT.run (ExceptT.run run >>= k) o = StateT.run (k (seen run o).1) (seen run o).2 := rfl
  simp only [tryCatchThe, MonadExceptOf.tryCatch, ExceptT.tryCatch]
  refine (hbind _).trans ?_
  rcases seen run o with ⟨_ | _, _⟩ <;> rfl

theorem seen_ofExcept (r : Result β) (o : Observed δ α) : seen (MonadExcept.ofExcept r) o = (r, o) := by
  cases r <;> rfl

section
variable {b : Backoff δ} {outcomes : Nat → Result α} {n left : Nat} {delay next : δ} {moments : List (Moment δ α)}

theorem seen_watchedCall : seen (watchedCall outcomes) ⟨n, moments⟩ =
    (outcomes n, (⟨n + 1, moments ++ [.called (outcomes n)]⟩ : Observed δ α)) :=
  seen_ofExcept (outcomes n) _

/-- The last try. -/
theorem seen_tryFrom_zero : seen (b.tryFrom watchedHooks (watchedCall outcomes) n delay 0) ⟨n, moments⟩ =
    (outcomes n, ⟨n + 1, moments ++ .called (outcomes n) ::
      match outcomes n with | .ok _ => [] | .error _ => [.gaveUp (n + 1)]⟩) := by
  rw [tryFrom, seen_tryCatch, seen_watchedCall]
  cases outcomes n with
  | ok a => rfl
  | error f =>
    show (_, (⟨_, moments ++ [.called (.error f)] ++ [.gaveUp (n + 1)]⟩ : Observed δ α)) = _
    rw [List.append_assoc]
    rfl

/-- A try that is not the last one. -/
theorem seen_tryFrom_succ (hgrow : b.grow delay = .ok next) :
    seen (b.tryFrom watchedHooks (watchedCall outcomes) n delay (left + 1)) ⟨n, moments⟩ =
      match outcomes n with
      | .ok a => (.ok a, ⟨n + 1, moments ++ [.called (.ok a)]⟩)
      | .error f =>
        if b.retries f then seen (b.tryFrom watchedHooks (watchedCall outcomes) (n + 1) next left)
          ⟨n + 1, moments ++ [.called (.error f), .announced (n + 1) f delay, .slept delay]⟩
        else (.error f, ⟨n + 1, moments ++ [.called (.error f)]⟩) := by
  rw [tryFrom, seen_bind, seen_tryCatch, seen_bind, seen_watchedCall]
  cases outcomes n with
  | ok a => rfl
  | error f =>
    show seen (if b.retries f then _ else _) _ = _
    by_cases hretries : b.retries f = true
    · rw [if_pos hretries, hgrow]
      show seen _ (⟨n + 1, moments ++ [.called (.error f)] ++ [.announced (n + 1) f delay] ++ [.slept delay]⟩ :
        Observed δ α) = _
      rw [List.append_assoc, List.append_assoc]
      simp [hretries]
    · rw [if_neg hretries]
      simp [hretries]
      rfl

end

/-! ## The last try -/

/-- Try number `n + 1` is the last one: those before it failed with what may pass, and it succeeds, fails with what
may not pass, or has no other one after it. -/
structure EndsAt (b : Backoff δ) (outcomes : Nat → Result α) (n : Nat) : Prop where
  le : n ≤ b.maxRetries
  passed : ∀ k < n, ∃ f, outcomes k = .error f ∧ b.retries f = true
  last : ∀ f, outcomes n = .error f → b.retries f = true → n = b.maxRetries

/-- What is seen of a try that is followed by another one. -/
def turn (outcomes : Nat → Result α) (delays : Nat → δ) (k : Nat) : List (Moment δ α) :=
  .called (outcomes k) :: match outcomes k with
    | .ok _ => []
    | .error f => [.announced (k + 1) f (delays k), .slept (delays k)]

/-- What is seen of the last try. -/
def lastTurn (b : Backoff δ) (outcomes : Nat → Result α) (n : Nat) : List (Moment δ α) :=
  .called (outcomes n) :: match outcomes n with
    | .ok _ => []
    | .error _ => if n = b.maxRetries then [.gaveUp (n + 1)] else []

section
variable {b : Backoff δ} {delays : Nat → δ}

/-- What is seen from a try on, when each delay grows to the next one. -/
theorem seen_tryFrom (hgrow : ∀ k, b.grow (delays k) = .ok (delays (k + 1))) (outcomes : Nat → Result α) (left n : Nat)
    (moments : List (Moment δ α)) (hleft : n + left = b.maxRetries)
    (hpassed : ∀ k < n, ∃ f, outcomes k = .error f ∧ b.retries f = true) :
    ∃ m, n ≤ m ∧ b.EndsAt outcomes m ∧
      seen (b.tryFrom watchedHooks (watchedCall outcomes) n (delays n) left) ⟨n, moments⟩ = (outcomes m,
        ⟨m + 1, moments ++ (List.range' n (m - n)).flatMap (turn outcomes delays) ++ b.lastTurn outcomes m⟩) := by
  induction left generalizing n moments with
  | zero =>
    have hn : n = b.maxRetries := hleft
    refine ⟨n, Nat.le_refl n, ⟨Nat.le_of_eq hn, hpassed, fun _ _ _ => hn⟩, ?_⟩
    rw [seen_tryFrom_zero, lastTurn, if_pos hn]
    simp
  | succ left ih =>
    rw [seen_tryFrom_succ (hgrow n)]
    have hle : n ≤ b.maxRetries := by omega
    have hmore : n ≠ b.maxRetries := by omega
    cases houtcome : outcomes n with
    | ok a =>
      refine ⟨n, Nat.le_refl n, ⟨hle, hpassed, fun f hf => ?_⟩, ?_⟩
      · cases houtcome.symm.trans hf
      · simp [lastTurn, houtcome]
    | error f =>
      by_cases hretries : b.retries f = true
      · have hpassed' : ∀ k < n + 1, ∃ f, outcomes k = .error f ∧ b.retries f = true := by
          intro k hk
          rcases Nat.lt_succ_iff_lt_or_eq.mp hk with hk | rfl
          · exact hpassed k hk
          · exact ⟨f, houtcome, hretries⟩
        obtain ⟨m, hnm, hends, hseen⟩ := ih (n + 1)
          (moments ++ [.called (.error f), .announced (n + 1) f (delays n), .slept (delays n)]) (by omega) hpassed'
        refine ⟨m, by omega, hends, ?_⟩
        have hrange : List.range' n (m - n) = n :: List.range' (n + 1) (m - (n + 1)) := by
          rw [← List.range'_succ]
          congr 1
          omega
        dsimp only
        rw [if_pos hretries, hseen, hrange, List.flatMap_cons, turn, houtcome]
        simp
      · refine ⟨n, Nat.le_refl n, ⟨hle, hpassed, fun g hg hr => ?_⟩, ?_⟩
        · cases houtcome.symm.trans hg
          exact absurd hr hretries
        · simp [lastTurn, houtcome, hretries, hmore]

/-- What is seen of a whole run. -/
theorem seen_run (hinitial : delays 0 = b.initial) (hgrow : ∀ k, b.grow (delays k) = .ok (delays (k + 1)))
    (outcomes : Nat → Result α) : ∃ n, b.EndsAt outcomes n ∧
      seen (b.run watchedHooks (watchedCall outcomes)) {} = (outcomes n,
        ⟨n + 1, (List.range n).flatMap (turn outcomes delays) ++ b.lastTurn outcomes n⟩) := by
  obtain ⟨n, -, hends, hseen⟩ := seen_tryFrom hgrow outcomes b.maxRetries 0 [] (Nat.zero_add _) nofun
  refine ⟨n, hends, ?_⟩
  rw [run, ← hinitial, hseen, List.range_eq_range', Nat.sub_zero, List.nil_append]

end

/-! ## Exact delays -/

/-- Delays that are multiplied and compared without rounding. -/
def unrounded : Arithmetic ℚ where
  times p q := .ok (p * q)
  least p q := .ok (min p q)

/-- The delay after try number `k + 1`. -/
def delayAfter {K : Type} [Mul K] [Min K] (initial base largest : K) : Nat → K
  | 0 => initial
  | k + 1 => min (delayAfter initial base largest k * base) largest

section
variable {initial base largest : ℚ}

/-- What the largest delay has come to after `k` more steps stays below it. -/
theorem min_largest (hbase : 0 ≤ base) (hlargest : 0 ≤ largest) (k : Nat) :
    min (largest * min 1 base ^ k * base) largest = largest * min 1 base ^ (k + 1) := by
  rcases le_total 1 base with h | h
  · rw [min_eq_left h, one_pow, one_pow, mul_one]
    exact min_eq_right (le_mul_of_one_le_right hlargest h)
  · rw [min_eq_right h, mul_assoc, ← pow_succ]
    exact min_eq_left (mul_le_of_le_one_right hlargest (pow_le_one₀ hbase h))

/-- A delay that has grown is what the first one would have grown to, or what the largest one has come to. -/
theorem delayAfter_succ (hbase : 0 ≤ base) (hlargest : 0 ≤ largest) (k : Nat) :
    delayAfter initial base largest (k + 1) = min (initial * base ^ (k + 1)) (largest * min 1 base ^ k) := by
  induction k with
  | zero => simp [delayAfter]
  | succ k ih =>
    calc delayAfter initial base largest (k + 2)
        = min (min (initial * base ^ (k + 1)) (largest * min 1 base ^ k) * base) largest := by rw [delayAfter, ih]
      _ = min (min (initial * base ^ (k + 2)) (largest * min 1 base ^ k * base)) largest := by
        rw [min_mul_of_nonneg _ _ hbase, mul_assoc, ← pow_succ]
      _ = min (initial * base ^ (k + 2)) (largest * min 1 base ^ (k + 1)) := by
        rw [min_assoc, min_largest hbase hlargest]

/-- With a first delay that is not longer than the largest, the cap of each step is the cap of the whole. -/
theorem delayAfter_of_le (hbase : 0 ≤ base) (hlargest : 0 ≤ largest) (h : initial ≤ largest) (k : Nat) :
    delayAfter initial base largest k = min (initial * base ^ k) largest := by
  cases k with
  | zero => rw [pow_zero, mul_one, min_eq_left h, delayAfter]
  | succ k =>
    rw [delayAfter_succ hbase hlargest]
    rcases le_total 1 base with hone | hone
    · rw [min_eq_left hone, one_pow, mul_one]
    · have hshort : initial * base ^ (k + 1) ≤ largest * base ^ (k + 1) :=
        mul_le_mul_of_nonneg_right h (pow_nonneg hbase _)
      have hpow : largest * base ^ (k + 1) ≤ largest * base ^ k :=
        mul_le_mul_of_nonneg_left (pow_le_pow_of_le_one hbase hone (Nat.le_succ k)) hlargest
      have hcap : largest * base ^ (k + 1) ≤ largest := mul_le_of_le_one_right hlargest (pow_le_one₀ hbase hone)
      rw [min_eq_right hone, min_eq_left (hshort.trans hpow), min_eq_left (hshort.trans hcap)]

/-- Which calls are made, which delays are between them, and how the run ends: tries go on up to the first success, the
first failure that may not pass, or the last try there is; the value or the failure of the last one is handed on. -/
theorem seen_run_unrounded (maxRetries : Nat) (initial : ℚ) (hbase : 0 ≤ base) (hlargest : 0 ≤ largest)
    (retries : Failure → Bool) (outcomes : Nat → Result α) :
    ∃ n delays, (growing unrounded maxRetries initial base largest retries).EndsAt outcomes n ∧
      seen ((growing unrounded maxRetries initial base largest retries).run watchedHooks (watchedCall outcomes)) {} =
        (outcomes n, ⟨n + 1, (List.range n).flatMap (turn outcomes delays) ++
          (growing unrounded maxRetries initial base largest retries).lastTurn outcomes n⟩) ∧
      delays 0 = initial ∧
      (∀ k, delays (k + 1) = min (initial * base ^ (k + 1)) (largest * min 1 base ^ k)) ∧
      ((∀ k < n, delays k = min (initial * base ^ k) largest) ↔ n = 0 ∨ initial ≤ largest) := by
  have hgrow (k : Nat) : (growing unrounded maxRetries initial base largest retries).grow
      (delayAfter initial base largest k) = .ok (delayAfter initial base largest (k + 1)) := rfl
  obtain ⟨n, hends, hseen⟩ := seen_run rfl hgrow outcomes
  refine ⟨n, delayAfter initial base largest, hends, hseen, rfl, delayAfter_succ hbase hlargest, ?_⟩
  constructor
  · intro h
    rcases Nat.eq_zero_or_pos n with hn | hn
    · exact .inl hn
    · have hfirst := h 0 hn
      rw [pow_zero, mul_one, delayAfter] at hfirst
      exact .inr (min_eq_left_iff.mp hfirst.symm)
  · rintro (rfl | h) k hk
    · cases hk
    · exact delayAfter_of_le hbase hlargest h k

/-! ### A first delay that is longer than the largest -/

/-- Two tries. After the first one it is waited five, although the largest delay is two. -/
def longFirst : Backoff ℚ := growing unrounded 1 5 2 2 fun _ => true

/-- What a call is refused with. -/
def refusal : Failure := .fault "ConnectionError" "refused"

/-- A call that succeeds the second time. -/
def secondTime : Nat → Result Nat
  | 0 => .error refusal
  | _ => .ok 1

theorem seen_run_longFirst : (0 : ℚ) ≤ 2 ∧ ∃ delays : Nat → ℚ,
    seen (longFirst.run watchedHooks (watchedCall secondTime)) {} =
      (.ok 1, ⟨2, [.called (.error refusal), .announced 1 refusal 5, .slept 5, .called (.ok 1)]⟩) ∧
    delays 0 = 5 ∧ (∀ k, delays (k + 1) = min (5 * 2 ^ (k + 1)) (2 * min 1 2 ^ k)) ∧
    ¬ ∀ k < 1, delays k = min (5 * 2 ^ k) 2 := by
  have htwo : (0 : ℚ) ≤ 2 := by norm_num
  obtain ⟨n, delays, hends, hseen, hfirst, hlater, hdocumented⟩ :=
    seen_run_unrounded 1 5 htwo htwo (fun _ => true) secondTime
  have hn : n = 1 := by
    rcases Nat.le_one_iff_eq_zero_or_eq_one.mp hends.le with rfl | rfl
    · exact hends.last refusal rfl rfl
    · rfl
  subst hn
  refine ⟨htwo, delays, hseen.trans ?_, hfirst, hlater, hdocumented.not.mpr ?_⟩
  · rw [List.range_one, List.flatMap_singleton, turn, hfirst]
    rfl
  · norm_num

/-! ## Delays that are whole numbers -/

theorem cast_delayAfter (initial base largest : ℤ) (k : Nat) :
    ((delayAfter initial base largest k : ℤ) : ℚ) = delayAfter (initial : ℚ) base largest k := by
  induction k with
  | zero => rfl
  | succ k ih => rw [delayAfter, delayAfter, Int.cast_min, Int.cast_mul, ih]

/-- A policy whose delays are whole numbers does not round them. -/
theorem seen_run_whole (maxRetries : Nat) (initial base largest : ℤ) (retries : Failure → Bool)
    (outcomes : Nat → Result α) : ∃ n, ∃ delays : Nat → ℤ,
      (growing RetryPolicy.arithmetic maxRetries (.int initial) (.int base) (.int largest) retries).EndsAt outcomes n ∧
      seen ((growing RetryPolicy.arithmetic maxRetries (.int initial) (.int base) (.int largest) retries).run
        watchedHooks (watchedCall outcomes)) {} = (outcomes n, ⟨n + 1,
          (List.range n).flatMap (turn outcomes fun k => .int (delays k)) ++
          (growing RetryPolicy.arithmetic maxRetries (.int initial) (.int base) (.int largest) retries).lastTurn
            outcomes n⟩) ∧
      ∀ k, (delays k : ℚ) = delayAfter (initial : ℚ) base largest k := by
  have hgrow (k : Nat) :
      (growing RetryPolicy.arithmetic maxRetries (.int initial) (.int base) (.int largest) retries).grow
        (.int (delayAfter initial base largest k)) = .ok (.int (delayAfter initial base largest (k + 1))) :=
    Value.least_int _ _
  obtain ⟨n, hends, hseen⟩ := seen_run rfl hgrow outcomes
  exact ⟨n, delayAfter initial base largest, hends, hseen, cast_delayAfter initial base largest⟩

end

end SqlWeave.Backoff
