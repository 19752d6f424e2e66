import SqlWeave.Failure.Callable
import SqlWeave.Session.Transaction
import SqlWeave.Text.Word

/-!
# Running one statement

A runner executes a statement and commits it at once when no transaction is active. A statement that
fails is reported as one problem with the statement, its values and the failure behind it. The
runner of an embedded database marks itself dirty after every statement that is not known to be
read-only.
-/

namespace SqlWeave

/-! ## Statements that only read -/

namespace ReadOnly

/-- Is a character the letter of a keyword? Beside the two cases of a letter, a long s counts as S,
and a dotted capital or a dotless small i as I. -/
def sameLetter (keyword c : Char) : Bool :=
  c.toUpper = keyword || (keyword = 'S' && c.toNat = 0x17f) ||
    (keyword = 'I' && (c.toNat = 0x130 || c.toNat = 0x131))

/-- Does a text begin with a keyword that ends there? -/
def beginsWith : List Char → List Char → Bool
  | [], [] => true
  | [], c :: _ => !Text.isWord c
  | _ :: _, [] => false
  | k :: more, c :: rest => sameLetter k c && beginsWith more rest

/-- The keywords that a reading statement begins with. -/
def keywords : List String := ["SELECT", "PRAGMA", "EXPLAIN"]

/-- Does a reading keyword follow the blanks at the head of a text? -/
def reads (cs : List Char) : Bool :=
  keywords.any fun k => beginsWith k.toList (cs.dropWhile Text.isBlank)

/-- Does a reading keyword follow some end of a comment? -/
def readsAfterComment : List Char → Bool
  | [] => false
  | '*' :: '/' :: rest => reads rest || readsAfterComment rest
  | _ :: rest => readsAfterComment rest

/-- Does a statement begin with a reading keyword? Where it begins with a comment, the keyword may
follow any end of a comment: the test does not tell which end closes the first one. -/
def test (sql : String) : Bool :=
  match sql.toList.dropWhile Text.isBlank with
  | '/' :: '*' :: rest => readsAfterComment rest
  | cs => reads cs

end ReadOnly

/-! ## Execution -/

namespace Reply

/-- How many rows were touched, when the backend knows: a count below zero is none. -/
def touched (r : Reply) : Option Int := r.affected.filter (0 ≤ ·)

/-- The outcome of a reply; a last id counts where the dialect reports one. -/
def outcome (r : Reply) (dialect : Dialect) : QueryOutcome :=
  match r.rows with
  | some rows => { records := rows, raw := .list (rows.map Value.record), affected := r.touched }
  | none =>
    { affected := r.touched
      raw := .record
        [("affected_rows", .ofInt? r.touched),
          ("last_insert_id", if dialect.reportsLastId then r.lastRowId else .null)] }

end Reply

/-! ## Spans -/

namespace Tracing

/-- The blanks among the bytes of ASCII. -/
def isBlankByte (b : UInt8) : Bool := b = 32 || (9 ≤ b && b ≤ 13)

/-- Bytes without the blanks around them. -/
def trimBytes (b : List UInt8) : List UInt8 :=
  ((b.dropWhile isBlankByte).reverse.dropWhile isBlankByte).reverse

/-- The longest statement that is shown whole. -/
def longestShown : Nat := 4096

/-- A statement as a span shows it: without blanks around it, and cut when it is long. An absent
statement is an empty one, and only a text and bytes can be trimmed. -/
def shownStatement (sql : Value) : Result Value :=
  if !sql.truth then .ok (.text "")
  else match sql, sql.text? with
    | .bytes b, _ =>
      let b := trimBytes b
      .ok (if longestShown < b.length then
        .text ((Value.bytes (b.take (longestShown - 3))).display ++ "...") else .bytes b)
    | _, some s =>
      let s := Text.trim s
      .ok (.text (if longestShown < s.length then
        String.ofList (s.toList.take (longestShown - 3)) ++ "..." else s))
    | v, none => .error (.fault "AttributeError" (v.memberOwner ++ " has no attribute 'strip'"))

/-- The first word of a statement in capitals. -/
def operationOf (statement : Value) : Value :=
  match statement with
  | .text s => .text (Text.upper (Text.firstWord s))
  | .bytes b => .bytes ((b.takeWhile fun x => !isBlankByte x).map fun x =>
      if 97 ≤ x && x ≤ 122 then x - 32 else x)
  | v => v

/-- The span around a statement. -/
def ofStatement (w : World) (sql : Value) : Tracing :=
  { name := "quarry.query_runner.query"
    added := do
      let statement ← shownStatement sql
      return [("db.system", .text w.dialect.word), ("db.name", w.database)] ++
        (if statement.truth then
          [("db.operation", operationOf statement), ("db.statement", statement)] else []) ++
        [("quarry.data_source", w.sourceName)] }

end Tracing

namespace Session

/-- Runs a call inside a span, which ends with it. -/
def traced {α : Type} (t : Tracing) (s : Session α) : Session α := do
  match t.warning? with
  | some m => log .warning Tracing.logger m
  | none => pure ()
  let r ← attempt s
  if (← get).recordsSpans then emit (.span (t.span "" r))
  MonadExcept.ofExcept r

/-! ## Running -/

/-- The values of a sequence; what counts as false has none. -/
def positional (v : Value) : Result (List Value) :=
  if !v.truth then .ok []
  else match v.elements? with
    | some values => .ok values
    | none => .error .wrongKind

/-- The fields of the log records about a statement. -/
def statementFields (sql : Value) (values : List Value) : Session Record := do
  let w ← get
  return [("data_source", w.sourceName), ("db.system", .text w.dialect.word),
    ("db.statement", sql), ("db.parameters.count", .int values.length)]

/-- Executes a statement and commits it when no transaction is active. -/
def execAndCommit (r c : Nat) (sql : Value) (values : List Value) : Session QueryOutcome := do
  let reply ← exec c sql values
  if !(← runner r).active then commit c
  return reply.outcome (← get).dialect

/-- What follows a statement that failed: its record, and the rollback of what it left open. -/
def cleanUp (r c : Nat) (fields : Record) (started : Double) (f : Failure) : Session Unit := do
  let duration := (← now) - started
  log .error "quarry.driver.query_runner" "Query failed"
    (fields ++ [("duration.seconds", .text (Decimal.fixed 6 duration)), ("error", .text f.text)]) true
  if !(← runner r).active && (← inTransaction c) then rollback c

/-- Is a duration longer than what is allowed? Only a number allows anything. -/
def exceeds (duration : Double) (longest : Value) : Result Bool :=
  match longest, longest.int? with
  | .float x, _ => .ok (x.lt duration)
  | _, some n => .ok (Double.compareInt? n duration = some .lt)
  | _, none => .error .wrongKind

/-- Warns of a statement that took longer than is allowed. -/
def warnIfSlow (fields : Record) (started : Double) : Session Unit := do
  let duration := (← now) - started
  let longest := (← get).settings.get "max_query_execution_time"
  if longest.isNull then return
  if ← ofResult (exceeds duration longest) then
    log .warning "quarry.driver.query_runner" "Query is slow"
      (fields ++ [("duration.seconds", .text (Decimal.fixed 6 duration))])

/-- Marks the runner of an embedded database after a statement, and hands the changes to the
automatic save when no transaction is active. Only a text can be told to be read-only. -/
def afterQuery (r : Nat) (sql : Value) : Session Unit := do
  if ← keepsImage then
    match sql.text? with
    | none => throw .wrongKind
    | some s => if !ReadOnly.test s then changeRunner r fun x => { x with dirty := true }
    if !(← runner r).active then flush r

/-- Runs a statement, without the span around it. -/
def runStatement (r : Nat) (sql parameters : Value) : Session QueryOutcome := do
  if (← runner r).released then raise (.problem .runnerReleased none)
  let c ← connect r
  let values ← ofResult (positional parameters)
  let fields ← statementFields sql values
  log (if ((← get).settings.get "log_queries").truth then .info else .debug) "quarry.driver.query_runner"
    "Executing query" fields
  let started ← now
  match ← attempt (execAndCommit r c sql values) with
  | .error f =>
    cleanUp r c fields started f
    let shown ← ofResult (ProblemKind.tellableQuery sql)
    raise (.problem (.queryFailed shown values) (some f))
  | .ok outcome =>
    warnIfSlow fields started
    afterQuery r sql
    return outcome

/-- Runs a statement on a runner. -/
def query (r : Nat) (sql parameters : Value) : Session QueryOutcome := do
  traced (.ofStatement (← get) sql) (runStatement r sql parameters)

end Session

end SqlWeave
