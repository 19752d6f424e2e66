import SqlWeave.Session.Broadcast
import SqlWeave.Settings

/-!
# Vocabularies

Each closed set of words that callers may use has a name, and each of its members a label beside the
word. A label is the word in capitals; only the codes of errors are labelled otherwise.
-/

namespace SqlWeave

/-- A closed set of words. -/
structure Vocabulary where
  name : String
  /-- The label and the word of each member, in order. -/
  members : List (String × String)

namespace Vocabulary

/-- A set whose labels are its words in capitals. -/
def ofWords (name : String) (words : List String) : Vocabulary :=
  ⟨name, words.map fun w => (Text.upper w, w)⟩

/-- Every set. -/
def all : List Vocabulary :=
  [ofWords "DatabaseType" (Dialect.all.map Dialect.word),
    ofWords "ReplicationMode" (ReplicationMode.all.map ReplicationMode.word),
    ofWords "StorageType" (StorageKind.all.map StorageKind.word),
    ofWords "QueryType" (StatementKind.all.map StatementKind.word),
    ofWords "WhereType" (Connector.all.map Connector.word),
    ofWords "ReturningStyle" (ReturningStyle.all.map ReturningStyle.word),
    ofWords "GenerationStrategy" (Generation.all.map Generation.word),
    ofWords "OrderDirection" (SortDirection.all.map SortDirection.word),
    ofWords "BroadcastEvent" (Hook.all.map Hook.word),
    ⟨"ErrorCode", ErrorCode.all.map fun c => (c.label, c.word)⟩]

/-- The set with a name. -/
def named? (name : String) : Option Vocabulary := all.find? (·.name = name)

/-- The word that a value is, or that the code of an error stands for among the codes. -/
def word? (v : Vocabulary) : Value → Option String
  | .code c => if v.name = "ErrorCode" then some c.word else none
  | given => given.text?

/-- The member that a value is the word of. -/
def member (v : Vocabulary) (given : Value) : Result (String × String) :=
  match v.members.find? fun m => v.word? given = some m.2 with
  | some m => .ok m
  | none => .error (.badValue (given.literal ++ " is not a valid " ++ v.name))

end Vocabulary

end SqlWeave
