import SqlWeave.Session.Source
import SqlWeave.Settings.Source

/-!
# Opening a session

A session begins with the construction of its data source: the settings are read, the entities are
registered, and the driver of the dialect is made, which asks for the settings that it cannot do
without. Nothing is connected before that is asked for.
-/

namespace SqlWeave

/-- How the settings of a data source are given. -/
inductive SettingsForm where
  /-- As fields, each by its name. -/
  | fields
  /-- As one record, together with fields that override it. -/
  | mapping
  /-- As settings that were read before; what overrides them is taken as it is. -/
  | ready
  /-- Not at all: they come from the environment. -/
  | environment
  deriving DecidableEq, Inhabited

/-- What an entity is declared by. -/
structure EntityDeclaration where
  /-- Is it a schema, which stands for itself? -/
  declared : Bool := false
  fields : Record := []
  deriving Inhabited

namespace EntityDeclaration

def read (e : EntityDeclaration) : Result Entity := Entity.read e.declared e.fields

end EntityDeclaration

/-- What a data source is made from. -/
structure SourceDeclaration where
  form : SettingsForm := .fields
  options : Record := []
  overriding : Record := []
  environment : Assoc String := []
  entities : List EntityDeclaration := []
  subscribers : List Subscriber := []
  /-- Is the package for embedded databases missing? -/
  missingPackage : Bool := false
  deriving Inhabited

namespace SourceDeclaration

/-- The names that stand for something else than fields of the settings. -/
def takenNames : List String := ["self", "entities", "subscribers"]

/-- Is a name given that is taken? -/
def collides (given : Record) (taken : List String) : Bool := given.any fun p => taken.contains p.1

/-- Settings from fields that are given by name; one of them may be a record of further fields, which
the others override. -/
def ofFields (given : Record) (environment : Assoc String) : Result Settings :=
  let own := Assoc.erase given "options"
  match given.get? "options" with
  | none | some .null => Settings.load own environment ""
  | some (.record base) => Settings.load (Assoc.merge base own) environment ""
  | some _ => .error .noMember

def settings (d : SourceDeclaration) : Result Settings := do
  match d.form with
  | .fields =>
    if collides d.options d.overriding.keys || collides (d.options ++ d.overriding) takenNames then
      throw .wrongKind
    ofFields (d.options ++ d.overriding) d.environment
  | .mapping =>
    if collides d.overriding ("options" :: takenNames) then throw .wrongKind
    Settings.load (Assoc.merge d.options d.overriding) d.environment ""
  | .ready =>
    let s ← Settings.load d.options d.environment ""
    if collides d.overriding ("options" :: takenNames) then throw .wrongKind
    return s.replaceAll d.overriding
  | .environment => Settings.load [] d.environment ""

end SourceDeclaration

namespace Session

/-- The dialects' words, in order. -/
def knownTypes : List Value := Dialect.all.map fun d => .text d.word

/-- An embedded database needs the package that holds it, unless a driver is given. -/
def requirePackage (d : SourceDeclaration) (s : Settings) : Session Unit := do
  if d.missingPackage && (s.get "driver").isNull then
    raise (.problem (.packageMissing (.text "SQLite") (.text "sqlite3"))
      (some (.fault "ImportError" "No module named 'sqlite3'")))

/-- Fails because an option is missing. -/
def optionMissing (option : String) : Session Unit :=
  raise (.problem (.optionMissing (.text option) .null) none)

/-- What a dialect's driver asks of the settings. -/
def prepareDriver (declaration : SourceDeclaration) (s : Settings) (d : Dialect) : Session Unit := do
  match d with
  | .sqlite => do
    requirePackage declaration s
    if !s.database.truth then optionMissing "database"
  | .sqljs => do
    if s.autoSave.truth && !s.location.truth && !s.autoSaveCallback.truth then
      optionMissing "location or auto_save_callback"
    requirePackage declaration s
    let keeping := Keeping.ofValue (s.get "storage_backend")
    modify fun w => { w with storage := { w.storage with kind := s.storage, keeping } }
  | _ => pure ()

/-- Registers entities one after the other. -/
def registerAll (entities : List Entity) : Session Unit :=
  entities.forM fun e => modify fun w => (w.register e).2

/-- Makes the data source. -/
def openSource (declaration : SourceDeclaration) : Session Unit := do
  let entities ← ofResult (declaration.entities.mapM EntityDeclaration.read)
  let s ← ofResult declaration.settings
  modify fun w =>
    { w with settings := s, database := s.database, schema := s.schemaName
             subscribers := declaration.subscribers }
  registerAll entities
  match s.type.text?.bind Dialect.ofWord? with
  | none => raise (.problem (.driverUnknown s.type knownTypes) none)
  | some d =>
    modify fun w => { w with dialect := d }
    log .debug "quarry.driver.factory" "Creating driver"
      [← sourceField, ("db.system", .text d.word), ("driver", .text d.driverName)]
    prepareDriver declaration s d

end Session

end SqlWeave
