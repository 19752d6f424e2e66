import SqlWeave.Retry.Logged
import SqlWeave.Text.Holds
import SqlWeave.Value.Arithmetic

/-!
# Retry policies

A policy says how often a call is tried again, how the delays grow, and which failures may pass:
those of some classes, those whose text holds some words, or all. `rehearse` runs a call whose
results are known beforehand, and tells what a caller would see.
-/

namespace SqlWeave

structure RetryPolicy where
  /-- How many more tries there are; with a negative number there is not even a first one, and what
  is no whole number cannot be counted to. -/
  maxRetries : Value := .int 3
  initial : Value := .float (Double.ofInt 1)
  largest : Value := .float (Double.ofInt 60)
  base : Value := .float (Double.ofInt 2)
  /-- The classes of failures that may pass; without a list all may. -/
  classes : Option (List String) := none
  /-- What the text of a failure that may pass holds. -/
  words : Option String := none
  deriving Inhabited

namespace RetryPolicy

/-- May a failure pass? -/
def retries (p : RetryPolicy) (f : Failure) : Bool :=
  (match p.classes with
    | none => true
    | some kinds => kinds.any f.isA) &&
  (match p.words with
    | none => true
    | some w => Text.holds w.toList f.text.toList)

/-- Delays as the numbers that they are given as. What is no number does not grow. -/
def arithmetic : Arithmetic Value := { times := Value.times, least := Value.least }

/-- Runs a call under the policy. -/
def run {α : Type} {m : Type → Type} [Monad m] [MonadExceptOf Failure m] (p : RetryPolicy)
    (hooks : Backoff.Hooks Value m) (action : m α) : m α :=
  match p.maxRetries.int? with
  | none => throwThe Failure .wrongKind
  | some n =>
    if n < 0 then throwThe Failure (.fault "RuntimeError" "unreachable")
    else (Backoff.growing arithmetic n.toNat p.initial p.base p.largest p.retries).run hooks action

/-! ## Rehearsals -/

/-- What a rehearsal reads and what it leaves behind. -/
structure Stage where
  /-- The results to come; the last one comes again and again. -/
  results : List (Result Value)
  /-- How many times the call was made. -/
  calls : Nat := 0
  delays : List Value := []
  logs : List (LogLevel × String × String) := []

/-- The next result of the call. -/
def Stage.next : ExceptT Failure (StateM Stage) Value := do
  let s ← get
  match s.results with
  | [] => pure .null
  | r :: rest => do
    set { s with calls := s.calls + 1, results := if rest.isEmpty then s.results else rest }
    MonadExcept.ofExcept r

/-- Runs a call of a name under the policy, with its results known beforehand. -/
def rehearse (p : RetryPolicy) (name : String) (results : List (Result Value)) : Result Value × Stage :=
  let hooks : Backoff.Hooks Value (ExceptT Failure (StateM Stage)) := .logged
    (fun level logger message => modify fun s => { s with logs := s.logs ++ [(level, logger, message)] })
    (fun delay => modify fun s => { s with delays := s.delays ++ [delay] }) name
  (p.run hooks Stage.next).run { results }

end RetryPolicy

end SqlWeave
