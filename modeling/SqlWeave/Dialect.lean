/-!
# Dialects

The set of backends is closed. Each has one dialect of SQL, described by its capabilities: what it
gives back from a write, which hints a WITH block takes, how an insert without columns and one that
skips conflicts are written.
-/

namespace SqlWeave

/-- The kind of a statement. -/
inductive StatementKind where
  | select | insert | update | delete
  deriving DecidableEq, Inhabited

namespace StatementKind

def all : List StatementKind := [.select, .insert, .update, .delete]

def word : StatementKind → String
  | .select => "select"
  | .insert => "insert"
  | .update => "update"
  | .delete => "delete"

def ofWord? (s : String) : Option StatementKind := all.find? (·.word = s)

end StatementKind

/-- How a dialect hands back rows touched by a write. -/
inductive ReturningStyle where
  | returning | output | none
  deriving DecidableEq, Inhabited

def ReturningStyle.all : List ReturningStyle := [.returning, .output, .none]

def ReturningStyle.word : ReturningStyle → String
  | .returning => "returning"
  | .output => "output"
  | .none => "none"

/-- How an insert that skips conflicting rows is written. -/
inductive IgnoreStyle where
  /-- `INSERT OR IGNORE INTO` -/
  | orIgnore
  /-- `INSERT IGNORE INTO` -/
  | ignore
  /-- `... ON CONFLICT DO NOTHING` -/
  | onConflict
  deriving DecidableEq, Inhabited

def IgnoreStyle.word : IgnoreStyle → String
  | .orIgnore => "or_ignore"
  | .ignore => "ignore"
  | .onConflict => "on_conflict"

/-- What a dialect allows in a WITH block. -/
structure CteCapabilities where
  enabled : Bool := false
  requiresRecursiveHint : Bool := false
  materializedHint : Bool := false
  writable : Bool := false
  deriving DecidableEq, Inhabited

/-- What the lowering of a statement depends on. -/
structure Capabilities where
  returningStyle : ReturningStyle := .none
  returningStatements : List StatementKind := []
  cte : CteCapabilities := {}
  defaultKeywordInValues : Bool := true
  emptyInsertExpression : String := "DEFAULT VALUES"
  insertIgnore : Option IgnoreStyle := none
  deriving DecidableEq, Inhabited

inductive Dialect where
  | postgres | mysql | mariadb | mssql | sqlite | sqljs
  deriving DecidableEq, Inhabited

namespace Dialect

def all : List Dialect := [.postgres, .mysql, .mariadb, .mssql, .sqlite, .sqljs]

/-- The identifier a backend is configured by. -/
def word : Dialect → String
  | .postgres => "postgres"
  | .mysql => "mysql"
  | .mariadb => "mariadb"
  | .mssql => "mssql"
  | .sqlite => "sqlite"
  | .sqljs => "sqljs"

def ofWord? (s : String) : Option Dialect := all.find? (·.word = s)

/-- The class name that the dialect's driver is shown under. -/
def driverName : Dialect → String
  | .postgres => "PostgresDriver"
  | .mysql | .mariadb => "MysqlDriver"
  | .mssql => "SqlServerDriver"
  | .sqlite => "SqliteDriver"
  | .sqljs => "SqljsDriver"

/-- Dialects of a server that is reached over a network. -/
def isNetwork : Dialect → Bool
  | .postgres | .mysql | .mariadb | .mssql => true
  | .sqlite | .sqljs => false

def capabilities : Dialect → Capabilities
  | .postgres =>
    { returningStyle := .returning
      returningStatements := [.insert, .update, .delete]
      cte := { enabled := true, requiresRecursiveHint := true, materializedHint := true, writable := true }
      insertIgnore := some .onConflict }
  | .mysql =>
    { cte := { enabled := true, requiresRecursiveHint := true }
      emptyInsertExpression := "VALUES ()"
      insertIgnore := some .ignore }
  | .mariadb =>
    { returningStyle := .returning
      returningStatements := [.insert, .delete]
      cte := { enabled := true, requiresRecursiveHint := true }
      emptyInsertExpression := "VALUES ()"
      insertIgnore := some .ignore }
  | .mssql =>
    { returningStyle := .output
      returningStatements := [.insert, .update, .delete]
      cte := { enabled := true, writable := true } }
  | .sqlite | .sqljs =>
    { cte := { enabled := true, requiresRecursiveHint := true }
      defaultKeywordInValues := false
      insertIgnore := some .orIgnore }

/-- Can rows be handed back from a statement of this kind? -/
def returns (d : Dialect) (kind : StatementKind) : Bool :=
  d.capabilities.returningStatements.contains kind

/-- Does the backend report the id of an inserted row? -/
def reportsLastId : Dialect → Bool
  | .mysql | .mariadb | .sqlite | .sqljs => true
  | .postgres | .mssql => false

/-- Does the reported id belong to the last row of an insert of several? -/
def lastIdIsFinalRow : Dialect → Bool
  | .sqlite | .sqljs => true
  | _ => false

/-- The positional placeholder of a bound value. -/
def placeholder : Dialect → String
  | .postgres | .mysql | .mariadb => "%s"
  | .mssql | .sqlite | .sqljs => "?"

/-- Dialects whose placeholders begin with a percent sign, so that every other one is doubled. -/
def doublesPercent : Dialect → Bool
  | .postgres | .mysql | .mariadb => true
  | .mssql | .sqlite | .sqljs => false

end Dialect

end SqlWeave
