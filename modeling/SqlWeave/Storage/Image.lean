import SqlWeave.Storage.FileTree
import SqlWeave.Storage.Kind
import SqlWeave.Text.Encoding
import SqlWeave.Text.Json
import SqlWeave.Value.Key

/-!
# Stored images

An embedded database's image is a sequence of bytes. It is kept as a file, or under a key of a
mapping as a JSON array of numbers. `bytesOf` says which values count as an image.
-/

namespace SqlWeave

namespace Image

/-- The byte that a value is. -/
def byte (v : Value) : Result UInt8 :=
  match v.int? with
  | none => .error .wrongKind
  | some n =>
    if 0 ≤ n && n < 256 then .ok (UInt8.ofNat n.toNat)
    else .error (.badValue "bytes must be in range(0, 256)")

/-- So many zero bytes. Counts beyond a word of 63 bits are refused, and those beyond all memory
fail. -/
def zeros (n : Int) : Result (List UInt8) :=
  if Int.ofNat (pow2 63) ≤ n || n < -Int.ofNat (pow2 63) then
    .error (.overflow "cannot fit 'int' into an index-sized integer")
  else if n < 0 then .error (.badValue "negative count")
  else if Int.ofNat (pow2 36) ≤ n then .error (.fault "MemoryError" "")
  else .ok (List.replicate n.toNat 0)

/-- The image that a value is: bytes, numbers of bytes, or how many zero bytes. -/
def bytesOf (v : Value) : Result (List UInt8) :=
  match v, v.int?, v.elements? with
  | .bytes b, _, _ => .ok b
  | .text _, _, _ | .keyword .., _, _ => .error .wrongKind
  | _, some n, _ => zeros n
  | _, none, some xs => xs.mapM byte
  | _, none, none => .error .wrongKind

/-- An image as the text that is kept under a key. -/
def encode (image : List UInt8) : String := Json.writeNats (image.map UInt8.toNat)

/-- A sequence of values as the text that is kept under a key. -/
def encodeValue (content : Value) : Result String :=
  match content, content.elements? with
  | .bytes image, _ => .ok (encode image)
  | _, some items => Json.write (.list items)
  | _, none => .error .wrongKind

/-- The text of a stored value: a text without a mark at its head, or bytes of one. -/
def textOf (stored : Value) : Result String :=
  match stored, stored.text? with
  | .bytes b, _ => match Text.ofBytes? b with
    | some s => .ok s
    | none => .error .malformedText
  | _, some s => if s.toList.head? = some '\ufeff' then .error .malformedJson else .ok s
  | _, none => .error .wrongKind

/-- The image that is kept under a key. -/
def decode (stored : Value) : Result (List UInt8) := do bytesOf (← Json.read (← textOf stored))

end Image

/-- What images are kept in under keys: a mapping, or a value that is none. -/
inductive Keeping where
  | mapping (entries : Keyed Value)
  | other (v : Value)
  deriving Inhabited

namespace Keeping

/-- A value as what images are kept in. -/
def ofValue : Value → Keeping
  | .record r => .mapping (Keyed.ofRecord r)
  | .null => .mapping []
  | v => .other v

/-- What images are kept in, as a value. -/
def toValue : Keeping → Value
  | .mapping m => .record (m.map fun p => (p.1.display, p.2))
  | .other v => v

/-- Is something kept under a key? -/
def holds (k : Keeping) (key : Value) : Result Bool :=
  match k with
  | .mapping m => if key.isKey then .ok (!((m.get? key).getD .null).isNull) else .error .wrongKind
  | .other _ => .error .noMember

/-- The image under a key. -/
def read (k : Keeping) (key : Value) : Result (List UInt8) :=
  match k with
  | .other _ => .error .wrongKind
  | .mapping m =>
    if key.isKey then
      match m.get? key with
      | none => .error .missingKey
      | some stored => Image.decode stored
    else .error .wrongKind

/-- Keeps content under a key. -/
def write (k : Keeping) (key content : Value) : Result Keeping := do
  let text ← Image.encodeValue content
  match k with
  | .mapping m => if key.isKey then .ok (.mapping (m.put key (.text text))) else .error .wrongKind
  | .other _ => .error .wrongKind

end Keeping

/-- A place for images: the file tree, or what they are kept in under keys. -/
structure Storage where
  kind : StorageKind := .file
  files : FileTree := []
  keeping : Keeping := .mapping []
  deriving Inhabited

namespace Storage

/-- The class name that a storage is shown under. -/
def className (s : Storage) : String :=
  match s.kind with
  | .file => "FileStorage"
  | .keyValue => "KeyValueStorage"

/-- The path that a location is. -/
def path (location : Value) : Result FilePath :=
  match location.text? with
  | some s => .ok (FilePath.names s)
  | none => .error .wrongKind

/-- Is there an image at a location? -/
def holds (s : Storage) (location : Value) : Result Bool :=
  match s.kind with
  | .file => do s.files.isFile (← path location)
  | .keyValue => s.keeping.holds location

/-- The image at a location. -/
def read (s : Storage) (location : Value) : Result (List UInt8) :=
  match s.kind with
  | .file => do s.files.read (← path location)
  | .keyValue => s.keeping.read location

/-- The bytes that can be written to a file. -/
def fileContent (content : Value) : Result (List UInt8) :=
  match content with
  | .bytes b => .ok b
  | _ => .error .wrongKind

/-- Keeps content at a location. -/
def write (s : Storage) (location content : Value) : Result Unit × Storage :=
  match s.kind with
  | .file => match path location with
    | .error f => (.error f, s)
    | .ok p =>
      let (r, files) := s.files.write p (fileContent content)
      (r, { s with files })
  | .keyValue => match s.keeping.write location content with
    | .ok keeping => (.ok (), { s with keeping })
    | .error f => (.error f, s)

/-- What is logged when an image was kept. -/
def writtenMessage (s : Storage) : String :=
  match s.kind with
  | .file => "Database image written"
  | .keyValue => "Database image stored"

end Storage

end SqlWeave
