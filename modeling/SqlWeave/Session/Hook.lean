/-!
# Hooks

A session tells its subscribers about the statements and the transactions that it runs, before and
after each.
-/

namespace SqlWeave

/-- The points that subscribers are told about. -/
inductive Hook where
  | beforeInsert | afterInsert | beforeUpdate | afterUpdate | beforeRemove | afterRemove
  | beforeStart | afterStart | beforeCommit | afterCommit | beforeRollback | afterRollback
  deriving DecidableEq, Inhabited

namespace Hook

def all : List Hook :=
  [.beforeInsert, .afterInsert, .beforeUpdate, .afterUpdate, .beforeRemove, .afterRemove,
    .beforeStart, .afterStart, .beforeCommit, .afterCommit, .beforeRollback, .afterRollback]

def word : Hook → String
  | .beforeInsert => "before_insert"
  | .afterInsert => "after_insert"
  | .beforeUpdate => "before_update"
  | .afterUpdate => "after_update"
  | .beforeRemove => "before_remove"
  | .afterRemove => "after_remove"
  | .beforeStart => "before_transaction_start"
  | .afterStart => "after_transaction_start"
  | .beforeCommit => "before_transaction_commit"
  | .afterCommit => "after_transaction_commit"
  | .beforeRollback => "before_transaction_rollback"
  | .afterRollback => "after_transaction_rollback"

def ofWord? (s : String) : Option Hook := all.find? (·.word = s)

/-- The points around writes of an entity; the others are around transactions. -/
def isEntityHook : Hook → Bool
  | .beforeInsert | .afterInsert | .beforeUpdate | .afterUpdate | .beforeRemove | .afterRemove => true
  | _ => false

end Hook

end SqlWeave
