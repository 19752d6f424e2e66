import SqlWeave.Failure

/-!
# Retrying with growing delays

An action is tried again after a failure, as long as the failure is of a kind that may pass and
there are tries left. The delays between the tries start at `initial` and grow.
-/

namespace SqlWeave

/-- How delays are multiplied, and which of two is the smaller one. -/
structure Arithmetic (δ : Type) where
  times : δ → δ → Result δ
  least : δ → δ → Result δ

/-- When to try again, and how long to wait before. -/
structure Backoff (δ : Type) where
  /-- How many more tries there are after the first. -/
  maxRetries : Nat
  initial : δ
  /-- The delay after a delay, unless there is none. -/
  grow : δ → Result δ
  /-- May a failure pass? -/
  retries : Failure → Bool

namespace Backoff

/-- What happens around the tries. -/
structure Hooks (δ : Type) (m : Type → Type) where
  /-- Try number `n` failed and another one follows after a delay. -/
  again : Nat → Failure → δ → m Unit
  /-- The last of `n` tries failed. -/
  exhausted : Nat → m Unit
  sleep : δ → m Unit

/-- Delays that grow by a factor up to a largest one. The first one is as it was given. -/
def growing {δ : Type} (arithmetic : Arithmetic δ) (maxRetries : Nat) (initial base largest : δ)
    (retries : Failure → Bool) : Backoff δ :=
  { maxRetries, initial, retries
    grow := fun delay => do arithmetic.least (← arithmetic.times delay base) largest }

variable {δ α : Type} {m : Type → Type} [Monad m] [MonadExceptOf Failure m]

/-- Try number `n + 1`, with `left` more tries after it. -/
def tryFrom (b : Backoff δ) (hooks : Hooks δ m) (action : m α) (n : Nat) (delay : δ) :
    (left : Nat) → m α
  | 0 => tryCatchThe Failure action fun f => do
    hooks.exhausted (n + 1)
    throwThe Failure f
  | left + 1 => do
    let tried ← tryCatchThe Failure (do return Except.ok (← action)) fun f => pure (.error f)
    match tried with
    | .ok a => pure a
    | .error f =>
      if b.retries f then
        hooks.again (n + 1) f delay
        hooks.sleep delay
        match b.grow delay with
        | .ok next => tryFrom b hooks action (n + 1) next left
        | .error g => throwThe Failure g
      else throwThe Failure f

/-- Runs an action until it succeeds, fails for good, or no tries are left. -/
def run (b : Backoff δ) (hooks : Hooks δ m) (action : m α) : m α :=
  b.tryFrom hooks action 0 b.initial b.maxRetries

end Backoff

end SqlWeave
