/-!
# Levels of log records

A level is a number; five of the numbers have names. Some names stand for the same level, and the
number zero says that no level is set.
-/

namespace SqlWeave

inductive LogLevel where
  | debug | info | warning | error | critical
  deriving DecidableEq, Inhabited

namespace LogLevel

def all : List LogLevel := [.debug, .info, .warning, .error, .critical]

def word : LogLevel → String
  | .debug => "DEBUG"
  | .info => "INFO"
  | .warning => "WARNING"
  | .error => "ERROR"
  | .critical => "CRITICAL"

def number : LogLevel → Int
  | .debug => 10
  | .info => 20
  | .warning => 30
  | .error => 40
  | .critical => 50

/-- The number that says that no level is set. -/
def unset : Int := 0

/-- Every name of a level, with its number. -/
def names : List (String × Int) :=
  all.map (fun l => (l.word, l.number)) ++
    [("WARN", warning.number), ("FATAL", critical.number), ("NOTSET", unset)]

/-- The number that a name stands for. -/
def ofName? (name : String) : Option Int := (names.find? (·.1 = name)).map Prod.snd

/-- How the level of a number is written. -/
def nameOf (n : Int) : String :=
  if n = unset then "NOTSET"
  else match all.find? (·.number = n) with
    | some l => l.word
    | none => "Level " ++ toString n

theorem ofName?_word (l : LogLevel) : ofName? l.word = some l.number := by cases l <;> decide

theorem nameOf_number (l : LogLevel) : nameOf l.number = l.word := by cases l <;> decide

end LogLevel

end SqlWeave
