import SqlWeave.Statement.Outcome.Fields

/-!
# Terms

A term writes a value that may hold what is known only when the term is read: the object of a name,
or the entity of a target. `Term.read` puts those in and reads the parts from left to right; the
first part that cannot be read ends it.
-/

namespace SqlWeave

inductive Term where
  | value (v : Value)
  /-- The object of a name. -/
  | named (name : String)
  /-- The entity of a target. -/
  | entityOf (target : Term)
  /-- An answer to a statement, by its fields. -/
  | answer (fields : List (String × Term))
  | list (items : List Term)
  | tuple (items : List Term)
  | set (items : List Term)
  | record (fields : List (String × Term))
  | object (attributes : List (String × Term))
  | member (value : Term)
  | template (sql : String) (bound : List Term)
  | group (negated : Bool) (calls : List (String × List Term))
  deriving Inhabited

namespace Term

/-- How what a term refers to is found. -/
structure Finder (m : Type → Type) where
  named : String → m Value
  entityOf : Value → m Value
  fail : Failure → m Value

variable {m : Type → Type} [Monad m]

/-- The answer that fields make. -/
def answerOf (find : Finder m) (fields : Record) : m Value :=
  match Outcome.read "QueryResult" fields with
  | .ok o => pure o.toValue
  | .error f => find.fail f

mutual
/-- The value of a term. -/
def read (find : Finder m) : Term → m Value
  | .value v => pure v
  | .named name => find.named name
  | .entityOf target => do find.entityOf (← read find target)
  | .answer fields => do answerOf find (Assoc.ofPairs (← readFields find fields))
  | .list items => do return .list (← readItems find items)
  | .tuple items => do return .tuple (← readItems find items)
  | .set items => do return .set (← readItems find items)
  | .record fields => do return .record (Assoc.ofPairs (← readFields find fields))
  | .object fields => do return .object (Assoc.ofPairs (← readFields find fields))
  | .member v => do return .member (← read find v)
  | .template sql bound => do return .template sql (← readItems find bound)
  | .group negated calls => do return .group negated (← readCalls find calls)

def readItems (find : Finder m) : List Term → m (List Value)
  | [] => pure []
  | t :: rest => do
    let v ← read find t
    return v :: (← readItems find rest)

def readFields (find : Finder m) : List (String × Term) → m Record
  | [] => pure []
  | (name, t) :: rest => do
    let v ← read find t
    return (name, v) :: (← readFields find rest)

def readCalls (find : Finder m) : List (String × List Term) → m (List (String × List Value))
  | [] => pure []
  | (method, args) :: rest => do
    let args ← readItems find args
    return (method, args) :: (← readCalls find rest)
end

/-- The value of a term that refers to nothing. -/
def constant (t : Term) : Result Value :=
  t.read { named := fun _ => .error .noMember, entityOf := fun _ => .error .noMember, fail := .error }

end Term

end SqlWeave
