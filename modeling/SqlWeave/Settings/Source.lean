import SqlWeave.Settings
import SqlWeave.Settings.File

/-!
# Where settings come from

Arguments come before environment variables, and those before the bindings of a settings file. A
variable is called `QUARRY_` and the field's name, in any case; so are the names of arguments.
-/

namespace SqlWeave.Settings

/-- What an environment variable of a field is called, in lower case. -/
def variableName (field : String) : String := "quarry_" ++ field

/-! ## Merging the sources -/

/-- The fields that variables give; a variable without a value gives none. -/
def ofVariables (vars : Assoc (Option String)) : Record :=
  let lowered : Assoc (Option String) := Assoc.ofPairs (vars.map fun p => (Text.lower p.1, p.2))
  fieldNames.filterMap fun field =>
    ((lowered.get? (variableName field)).bind id).map fun v => (field, .text v)

/-- Arguments under the names of their fields; names that are no field's are left out, and of several
spellings of a name the first counts. -/
def ofArguments (given : Record) : Record :=
  given.foldl (fun acc p =>
    let field := Text.lower p.1
    if fieldNames.contains field && !acc.has field then acc ++ [(field, p.2)] else acc) []

/-- Settings from arguments, environment variables and the text of a settings file. -/
def load (arguments : Record) (env : Assoc String) (file : String) : Result Settings :=
  let fromFile := ofVariables (SettingsFile.defined env file)
  let fromEnvironment := ofVariables (env.map fun p => (p.1, some p.2))
  read (Assoc.merge (Assoc.merge fromFile fromEnvironment) (ofArguments arguments))

/-! ## Settings that are loaded once -/

/-- The settings in use, with their number among all that were made. -/
structure Cache where
  current : Option (Nat × Settings) := none
  made : Nat := 0
  deriving Inhabited

/-- The cached settings; loaded anew when there are none, or when asked to. -/
def Cache.get (c : Cache) (force : Bool) (env : Assoc String) (file : String) :
    Result (Nat × Settings) × Cache :=
  match force, c.current with
  | false, some s => (.ok s, c)
  | _, _ => match load [] env file with
    | .ok s => (.ok (c.made, s), { current := some (c.made, s), made := c.made + 1 })
    | .error f => (.error f, c)

/-- Drops the cached settings and loads them anew. -/
def Cache.reload (c : Cache) (env : Assoc String) (file : String) : Result (Nat × Settings) × Cache :=
  Cache.get { c with current := none } true env file

end SqlWeave.Settings
