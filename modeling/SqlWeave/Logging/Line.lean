import SqlWeave.Logging.Record
import SqlWeave.Text.Json

/-!
# Log lines

A record is written as one JSON object or as plain text. The object begins with the time, the level,
the logger and the message; the attributes follow in the order they were set, then the span that is
open and the exception. What comes later takes the place of an attribute of the same name.
-/

namespace SqlWeave

/-- The numbers of an open span and of its trace. -/
structure SpanContext where
  trace : Nat
  span : Nat
  deriving DecidableEq, Inhabited

/-- Both numbers are above zero and have their size. -/
def SpanContext.isValid (c : SpanContext) : Bool :=
  0 < c.trace && c.trace < pow2 128 && 0 < c.span && c.span < pow2 64

namespace LogRecord

/-- The name of the level, as the record has it. -/
def levelName (r : LogRecord) : Value := r.own "levelname" (.text (LogLevel.nameOf r.level))

/-- The fields of a record that is written as an object. -/
def payload (r : LogRecord) (time : String) (open? : Option SpanContext) : Result Record := do
  let head : Record :=
    [("timestamp", .text time), ("level", r.levelName), ("logger", r.own "name" (.text r.logger)),
      ("message", .text (← r.text))]
  let body := head ++ r.extras.filter fun p => !(Assoc.has head p.1)
  let body := match open? with
    | some c =>
      if c.isValid then
        (Assoc.put body "trace_id" (.text (Text.hex 32 c.trace))).put "span_id" (.text (Text.hex 16 c.span))
      else body
    | none => body
  return match r.thrown with
    | some e => Assoc.put body "exception" (.text (thrownText e))
    | none => body

/-- A record as a JSON object. -/
def jsonLine (r : LogRecord) (time : String) (open? : Option SpanContext) : Result String := do
  return Json.writeWith Value.display (.record (← r.payload time open?))

/-- A record as plain text; the exception stands on lines of its own. -/
def textLine (r : LogRecord) (time : String) : Result String := do
  return time ++ " " ++ r.levelName.display ++ " [" ++ (r.own "name" (.text r.logger)).display ++ "] " ++
    (← r.text) ++
    (match r.thrown with
      | some e => "\n" ++ thrownText e
      | none => "")

end LogRecord

end SqlWeave
