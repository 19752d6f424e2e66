import SqlWeave.Storage.Image
import SqlWeave.Place

/-!
# Calls on a storage

A caller asks whether there is an image at a location, reads it, or keeps another one there.
-/

namespace SqlWeave.Storage

/-- The places of the calls. -/
def methods : Assoc (List (Place Value)) :=
  [("exists", [Place.needed "location"]), ("read", [Place.needed "location"]),
    ("write", [Place.needed "location", Place.needed "content"])]

/-- Answers a call whose arguments are in their places. -/
def answer (s : Storage) (method : String) (args : List Value) : Result Value × Storage :=
  match method, args with
  | "exists", [location] => ((s.holds location).map .bool, s)
  | "read", [location] => ((s.read location).map .bytes, s)
  | "write", [location, content] =>
    let (r, s) := s.write location content
    (r.map fun _ => .null, s)
  | _, _ => (.error .wrongKind, s)

/-- Answers a call. -/
def call (s : Storage) (method : String) (args : List Value) : Result Value × Storage :=
  match methods.get? method with
  | none => (.error .noMember, s)
  | some places => match Place.fill places args [] with
    | .ok args => s.answer method args
    | .error f => (.error f, s)

/-- Writes a file beside the storage's own ones. -/
def writeFile (s : Storage) (path : String) (content : List UInt8) : Result Unit × Storage :=
  let (r, files) := s.files.write (FilePath.names path) (.ok content)
  (r, { s with files })

end SqlWeave.Storage
