import SqlWeave.Failure

/-!
# A tree of files

Paths are read from one directory, the root of the tree. A path is cut into names; empty names and
single dots do not count, and two dots lead to the directory above, also beyond the root. A path that
starts with a slash is read from the top instead, apart from what the tree holds. A name has
at most 255 bytes and a path fewer than 4096, and neither holds the character zero. A failure of the
file system has a number and names the path.
-/

namespace SqlWeave

/-- Names from the root of the tree. -/
abbrev FilePath := List String

/-- A directory, or a file with its bytes. -/
inductive FileNode where
  | directory
  | file (content : List UInt8)
  deriving Inhabited, DecidableEq

/-- What stands below the root, in the order of creation. -/
abbrev FileTree := List (FilePath × FileNode)

/-- Why the file system refuses. -/
inductive FileError where
  | missing | exists | notDirectory | isDirectory | tooLong
  /-- The path holds the character zero. -/
  | zero
  deriving DecidableEq, Inhabited

namespace FileError

def number : FileError → Nat
  | .missing => 2
  | .exists => 17
  | .notDirectory => 20
  | .isDirectory => 21
  | .tooLong => 36
  | .zero => 0

def className : FileError → String
  | .missing => "FileNotFoundError"
  | .exists => "FileExistsError"
  | .notDirectory => "NotADirectoryError"
  | .isDirectory => "IsADirectoryError"
  | .tooLong => "OSError"
  | .zero => "ValueError"

def words : FileError → String
  | .missing => "No such file or directory"
  | .exists => "File exists"
  | .notDirectory => "Not a directory"
  | .isDirectory => "Is a directory"
  | .tooLong => "File name too long"
  | .zero => "embedded null byte"

/-- The failure for a path. -/
def failure (e : FileError) (path : String) : Failure :=
  if e = .zero then .fault e.className e.words
  else .fault e.className ("[Errno " ++ toString e.number ++ "] " ++ e.words ++ ": " ++ Text.quoted path)

end FileError

namespace FilePath

/-- The name of the top, where a path that starts with a slash begins. Just two slashes are kept. -/
def top? : List Char → Option String
  | ['/', '/'] => some "//"
  | '/' :: '/' :: c :: _ => some (if c = '/' then "/" else "//")
  | '/' :: _ => some "/"
  | _ => none

/-- Is it a name of the top? -/
def isTop (name : String) : Bool := name = "/" || name = "//"

/-- The names of a path that count. -/
def names (path : String) : FilePath :=
  let rec split : List Char → List (List Char)
    | [] => [[]]
    | c :: rest =>
      if c = '/' then [] :: split rest
      else match split rest with
        | [] => [[c]]
        | s :: more => (c :: s) :: more
  let counted := ((split path.toList).map String.ofList).filter fun n => n ≠ "" && n ≠ "."
  match top? path.toList with
  | some top => top :: counted
  | none => counted

/-- A path in its plain form. -/
def text : FilePath → String
  | [] => "."
  | name :: rest =>
    if isTop name then name ++ String.intercalate "/" rest else String.intercalate "/" (name :: rest)

/-- The largest size of a name in bytes. -/
def longestName : Nat := 255

/-- Paths of this many bytes are too long. -/
def tooManyBytes : Nat := 4096

/-- What is wrong with a path wherever it leads. -/
def error? (p : FilePath) : Option FileError :=
  if p.any fun name => name.toList.any (·.toNat = 0) then some .zero
  else if tooManyBytes ≤ p.text.utf8ByteSize then some .tooLong
  else none

/-- A place known to be a directory: the root, what is above it, and the top. -/
def isKnown (place : FilePath) : Bool := place.all (· = "..") || place = ["/"]

/-- The directory above a place. Above the root there are only directories, and above the top is
the top. -/
def above (place : FilePath) : FilePath :=
  if place = ["/"] then place
  else if place.all (· = "..") then ".." :: place else place.dropLast

/-- The place of a name in a directory. -/
def inside (place : FilePath) (name : String) : FilePath :=
  if isTop name then ["/"] else place ++ [name]

end FilePath

namespace FileTree

/-- The node at a place. -/
def node? (t : FileTree) (place : FilePath) : Option FileNode :=
  if place.isKnown then some .directory else (t.find? (·.1 = place)).map Prod.snd

/-- Puts a node at a place. -/
def put (t : FileTree) (place : FilePath) (n : FileNode) : FileTree :=
  if t.any (·.1 = place) then t.map fun e => if e.1 = place then (place, n) else e
  else t ++ [(place, n)]

/-- The place that a path leads to from a place. Only its last name may be missing. -/
def walk (t : FileTree) (place : FilePath) : FilePath → Except FileError FilePath
  | [] => .ok place
  | name :: rest =>
    match t.node? place with
    | none => .error .missing
    | some (.file _) => .error .notDirectory
    | some .directory =>
      if name = ".." then walk t (FilePath.above place) rest
      else if FilePath.longestName < name.utf8ByteSize then .error .tooLong
      else walk t (place.inside name) rest

/-- The place and the node of a path. -/
def find (t : FileTree) (path : FilePath) : Except FileError (FilePath × Option FileNode) :=
  match path.error? with
  | some e => .error e
  | none => do
    let place ← t.walk [] path
    .ok (place, t.node? place)

/-- Does a path lead to a file? A path that is too long leads nowhere, and fails. -/
def isFile (t : FileTree) (path : FilePath) : Result Bool :=
  match t.find path with
  | .ok (_, some (.file _)) => .ok true
  | .error .tooLong => .error (FileError.tooLong.failure path.text)
  | _ => .ok false

/-- Does a path lead to a directory? -/
def isDirectory (t : FileTree) (path : FilePath) : Bool :=
  match t.find path with
  | .ok (_, some .directory) => true
  | _ => false

/-- The bytes of a file. -/
def read (t : FileTree) (path : FilePath) : Result (List UInt8) :=
  match t.find path with
  | .ok (_, some (.file content)) => .ok content
  | .ok (_, some .directory) => .error (FileError.isDirectory.failure path.text)
  | .ok (_, none) => .error (FileError.missing.failure path.text)
  | .error e => .error (e.failure path.text)

/-- Makes one directory. -/
def makeOne (t : FileTree) (path : FilePath) : Except FileError FileTree :=
  match t.find path with
  | .error e => .error e
  | .ok (_, some _) => .error .exists
  | .ok (place, none) => .ok (t.put place .directory)

/-- Makes a directory unless it is there; the directory above it has to exist. -/
def makeLast (t : FileTree) (path : FilePath) : Result Unit × FileTree :=
  match t.makeOne path with
  | .ok t => (.ok (), t)
  | .error e => (if t.isDirectory path then .ok () else .error (e.failure path.text), t)

/-- Makes the directory of a path, given as its names from the last to the first, and those above
it. -/
def makeAllRev (t : FileTree) : FilePath → Result Unit × FileTree
  | [] => makeLast t []
  | name :: above =>
    let path := (name :: above).reverse
    match t.makeOne path with
    | .error .missing => match makeAllRev t above with
      | (.ok (), t) => makeLast t path
      | failed => failed
    | _ => makeLast t path

/-- Makes the directory of a path and those above it, unless they are there. The ones that were made
stay when one below them cannot be. -/
def makeAll (t : FileTree) (path : FilePath) : Result Unit × FileTree := makeAllRev t path.reverse

/-- What stands below the root. -/
def below (t : FileTree) : FileTree :=
  t.filter fun e => e.1.head? ≠ some ".." && e.1.head? ≠ some "/"

/-- What is below the root, by path: of a file its bytes in hexadecimal digits, of a directory nothing. -/
def listing (t : FileTree) : Record :=
  t.below.map fun e => match e.2 with
    | .directory => (e.1.text ++ "/", .null)
    | .file content => (e.1.text, .text (String.join (content.map fun b => Text.hex 2 b.toNat)))

/-- Writes a file whose directory exists. -/
def writeFile (t : FileTree) (path : FilePath) (content : List UInt8) : Result FileTree :=
  match t.find path with
  | .error e => .error (e.failure path.text)
  | .ok (_, some .directory) => .error (FileError.isDirectory.failure path.text)
  | .ok (place, _) => .ok (t.put place (.file content))

/-- Writes a file, and makes the directories above it first. What was made stays when the file
cannot be written, also because there is nothing to write. -/
def write (t : FileTree) (path : FilePath) (content : Result (List UInt8)) : Result Unit × FileTree :=
  match t.makeAll path.dropLast with
  | (.error f, t) => (.error f, t)
  | (.ok (), t) => match content >>= t.writeFile path with
    | .ok t => (.ok (), t)
    | .error f => (.error f, t)

end FileTree

end SqlWeave
