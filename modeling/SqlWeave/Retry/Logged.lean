import SqlWeave.Logging.Level
import SqlWeave.Retry

/-!
# Retrying with log records

Every further try is announced as a warning, and the failure of the last one as an error.
-/

namespace SqlWeave.Backoff

/-- The logger of the records about tries. -/
def logger : String := "quarry.utils.decorators"

/-- What is logged and done between the tries of a call of this name. -/
def Hooks.logged {m : Type → Type} (log : LogLevel → String → String → m Unit)
    (sleep : Value → m Unit) (name : String) : Hooks Value m where
  again n f delay := log .warning logger
    ("Attempt " ++ toString n ++ " failed for " ++ name ++ ": " ++ f.text ++ ". Retrying in " ++
      delay.display ++ " seconds...")
  exhausted n := log .error logger ("All " ++ toString n ++ " attempts failed for " ++ name)
  sleep := sleep

end SqlWeave.Backoff
