import SqlWeave.Place
import SqlWeave.Settings.Source

/-!
# Asking for settings

A program asks for the settings of its environment, which are loaded once and kept; it may ask for
them to be loaded anew, or make settings of its own. Every settings object that is made has a number
of its own, so that two answers can be told apart even when their fields agree.
-/

namespace SqlWeave.Settings

/-- What settings are asked for. -/
inductive Request where
  /-- Settings of its own, from arguments and the environment. -/
  | create (arguments : Record)
  /-- The settings that are kept. -/
  | get (force : Bool)
  | reload
  deriving Inhabited

/-- A request for the settings that are kept, with its arguments. -/
def Request.getWith (args : List Value) : Result Request := do
  match ← Place.fill [Place.given "force_reload" (.bool false)] args [] with
  | [force] => return .get force.truth
  | _ => throw .wrongKind

/-- What requests read and change. -/
structure Surroundings where
  /-- The environment variables. -/
  environment : Assoc String := []
  /-- The text of the settings file. -/
  file : String := ""
  cache : Cache := {}
  /-- The number of the last settings that were answered. -/
  last : Option Nat := none
  deriving Inhabited

namespace Surroundings

/-- Sets some variables, then removes others. -/
def change (s : Surroundings) (defined : Assoc String) (removed : List String) : Surroundings :=
  { s with environment := removed.foldl Assoc.erase (s.environment.merge defined) }

/-- Numbers settings that are not kept. -/
def number (c : Cache) (r : Result Settings) : Result (Nat × Settings) × Cache :=
  match r with
  | .ok s => (.ok (c.made, s), { c with made := c.made + 1 })
  | .error f => (.error f, c)

/-- The settings that a request gives. -/
def load (s : Surroundings) : Request → Result (Nat × Settings) × Cache
  | .create arguments => number s.cache (Settings.load arguments s.environment s.file)
  | .get force => s.cache.get force s.environment s.file
  | .reload => s.cache.reload s.environment s.file

/-- Answers a request: the settings, and whether they are the ones answered last. A request that
fails is forgotten. -/
def answer (s : Surroundings) (r : Request) : Result (Settings × Bool) × Surroundings :=
  match s.load r with
  | (.ok (n, settings), cache) => (.ok (settings, s.last = some n), { s with cache, last := some n })
  | (.error f, cache) => (.error f, { s with cache })

/-- Answers a request unless it was none. -/
def answerTo (s : Surroundings) : Result Request → Result (Settings × Bool) × Surroundings
  | .ok r => s.answer r
  | .error f => (.error f, s)

end Surroundings

end SqlWeave.Settings
