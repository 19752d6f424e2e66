import SqlWeave.Session.Checkout

/-!
# Embedded databases

An embedded data source owns one native database and an engine bound to it. A new database is
prepared first and takes the place of the old one only then. The image of an embedded database can
be kept in the storage and taken from there.
-/

namespace SqlWeave.Session

/-! ## Installing a native database -/

/-- Makes a native database the live one. Whatever fails before the old one is touched leaves it
as it was. -/
def install (n : Nat) : Session Unit := do
  nativeExecute n "PRAGMA foreign_keys = ON"
  let w ← get
  match w.shared with
  | some r => closeConnection r
  | none => pure ()
  modify fun w => { w with live := some n }
  let e ← createEngine (.text "sqlite://") [] (some n)
  modify fun w => { w with engine := some e }
  match w.engine with
  | some old => disposeEngine old
  | none => pure ()
  match w.live with
  | some old => if old = n then pure () else nativeClose old
  | none => pure ()

/-- The module that opens native databases, as an object that settings may hold. -/
def module : Value := .handle (.part "driver" "module") "module" (.text "<module>")

/-- Opens a native database. A module of another kind that the settings name cannot do so. -/
def openNative (database : Value) : Session Nat := do
  let given := (← get).settings.get "driver"
  if given.isNull || given.sameObject module then nativeConnect database else throw .noMember

/-- Opens a database in memory, perhaps from an image, and makes it the live one. -/
def importImage (image : Value) : Session Nat := do
  let n ← openNative (.text ":memory:")
  if !image.isNull then nativeDeserialize n (← ofResult (Image.bytesOf image))
  install n
  return n

/-- Lets go of the live database: of the shared runner's connection, the engine and the native
database, in this order. -/
def disconnectEmbedded : Session Unit := do
  match (← get).shared with
  | some r =>
    closeConnection r
    modify fun w => { w with shared := none }
  | none => pure ()
  match (← get).engine with
  | some e =>
    disposeEngine e
    modify fun w => { w with engine := none }
  | none => pure ()
  match (← get).live with
  | some n =>
    nativeClose n
    modify fun w => { w with live := none }
  | none => pure ()

/-! ## Images -/

/-- The image of the live database. -/
def exportImage : Session (List UInt8) := do
  match (← get).live with
  | some n => nativeSerialize n
  | none => throw .noMember

/-- Keeps an image at a location. -/
def store (location : Value) (image : List UInt8) : Session Unit := do
  let (r, storage) := (← get).storage.write location (.bytes image)
  modify fun w => { w with storage }
  match r with
  | .ok _ =>
    log .debug "quarry.driver.sqljs.storage" storage.writtenMessage
      [("location", location), ("size.bytes", .int image.length)]
  | .error f => throw f

/-- Keeps the live image at a location, or at the configured one. -/
def save (location : Value) : Session Unit := do
  let path := location.orElse (← get).settings.location
  if !path.truth then
    raise (.problem (.optionMissing (.text "location") (.text ("No location is set, specify a location " ++
      "parameter or add the location option to your configuration"))) none)
  let image ← exportImage
  match ← attempt (store path image) with
  | .ok _ => pure ()
  | .error f =>
    if f.isA "OSError" then
      raise (.problem (.general (.text ("Could not save database, error: " ++ f.text)) (.code .execution)
        (.record [("operation", .text "save")])) (some f))
    else throw f

/-- Hands the image to the callback, or keeps it, where that is asked for. -/
def autoSave : Session Unit := do
  let s := (← get).settings
  if s.autoSave.truth then
    if s.autoSaveCallback.isNull then save .null
    else
      let image ← exportImage
      match s.autoSaveCallback with
      | .receiver refusal =>
        emit (.callback image)
        match refusal with
        | some (kind, message) => throw (.named kind message)
        | none => pure ()
      | .template _ [] => pure ()
      | .template _ (_ :: _) => throw .noMember
      | _ => throw .wrongKind

/-- Hands pending changes to the automatic save. -/
def flush (r : Nat) : Session Unit := do
  if (← runner r).dirty then
    changeRunner r fun x => { x with dirty := false }
    autoSave

/-- Replaces the live database by a stored image, or by an image itself. A location without an image
fails when `mustExist`, and gives an empty database otherwise. -/
def load (source : Value) (mustExist : Bool) : Session Nat := do
  match source.text? with
  | some _ =>
    let storage := (← get).storage
    if ← ofResult (storage.holds source) then
      importImage (.bytes (← ofResult (storage.read source)))
    else if mustExist then raise (.problem (.storageMissing source) none)
    else importImage .null
  | none => importImage source

/-! ## Connecting -/

/-- The path of a database file; a tilde as its first name stands for the home directory, which is the root
of the tree. The homes of others are not known. -/
def databasePath (database : String) : Result FilePath :=
  match FilePath.names database with
  | [] => .ok []
  | name :: rest =>
    if name = "~" then .ok rest
    else if name.toList.head? = some '~' then
      .error (.fault "RuntimeError" "Could not determine home directory.")
    else .ok (name :: rest)

/-- Makes the directory of a database file. -/
def makeDatabaseDirectory (database : Value) : Session Unit := do
  match database.text? with
  | none => throw .wrongKind
  | some s =>
    let path ← ofResult (databasePath s)
    let (made, files) := (← get).storage.files.makeAll path.dropLast
    modify fun w => { w with storage := { w.storage with files } }
    ofResult made

/-- Opens a database file. -/
def connectFile : Session Unit := do
  let database := (← get).settings.database
  if database.text? ≠ some ":memory:" then makeDatabaseDirectory database
  let n ← openNative database
  install n
  log .info "quarry.driver.sqlite.driver" "Opened SQLite database" [← sourceField, ("db.name", database)]

/-- Opens an embedded database from its stored image, the image that is configured, or empty. -/
def connectImage : Session Unit := do
  let s := (← get).settings
  let _ ← if s.location.truth then load s.location false else importImage (s.get "database_content")
  log .info "quarry.driver.sqljs.driver" "Embedded database ready" [← sourceField, ("location", s.location)]

end SqlWeave.Session
