/-!
# Kinds of storage

An embedded database keeps its image in a file, or under a key of a mapping.
-/

namespace SqlWeave

inductive StorageKind where
  | file | keyValue
  deriving DecidableEq, Inhabited

namespace StorageKind

def all : List StorageKind := [.file, .keyValue]

def word : StorageKind → String
  | .file => "file"
  | .keyValue => "key_value"

def ofWord? (s : String) : Option StorageKind := all.find? (·.word = s)

end StorageKind

end SqlWeave
