import SqlWeave.Logging.Record

/-!
# The context of log records

Records carry what they were written for: the request and its user, which a program names while it
works on them, the name and version of this library, and what is fixed for the whole program. What
is fixed never hides what a record has already.
-/

namespace SqlWeave

structure LogContext where
  request : Value := .null
  user : Value := .null
  /-- What is attached to every record. -/
  fixed : Record := []
  deriving Inhabited

namespace LogContext

/-- The name that this library gives of itself. -/
def libraryName : String := "quarry"

def libraryVersion : String := "0.1.0"

/-- Names the request and the user; absence leaves what was named before. -/
def setRequest (c : LogContext) (request user : Value) : LogContext :=
  { c with
    request := if request.isNull then c.request else request
    user := if user.isNull then c.user else user }

/-- Forgets the request and the user. -/
def clearRequest (c : LogContext) : LogContext := { c with request := .null, user := .null }

/-- Replaces what is attached to every record. -/
def setFixed (c : LogContext) (environment : Value) (extra : Record) : LogContext :=
  { c with
    fixed := Assoc.merge (if environment.isNull then [] else [("environment", environment)]) extra }

/-- Attaches the context to a record. -/
def attach (c : LogContext) (r : LogRecord) : LogRecord :=
  let r := (((r.put "request_id" c.request).put "user_id" c.user).put "sdk_name"
    (.text libraryName)).put "quarry_version" (.text libraryVersion)
  c.fixed.foldl (fun r p => if r.has p.1 then r else r.put p.1 p.2) r

/-- What the context adds to a record. -/
def added (c : LogContext) (r : LogRecord) : Record :=
  (c.attach r).attributes.filter fun p => !(r.has p.1)

end LogContext

end SqlWeave
