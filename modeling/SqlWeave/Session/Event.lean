import SqlWeave.Logging.Level
import SqlWeave.Tracing

/-!
# What a session does to its surroundings

Every call that reaches the surroundings is an event: calls on engines, connections and native
databases, pauses, callbacks, notified subscribers, finished spans. Log records are kept beside the
events.
-/

namespace SqlWeave

/-- Where a server is reached: a text, or its parts. -/
inductive Url where
  | text (url : String)
  | parts (driver : String) (username password host : Value) (port : Option Int) (database : Value)
      (query : Record)
  deriving Inhabited, BEq

namespace Url

/-- A URL as a value. -/
def toValue : Url → Value
  | .text url => .text url
  | .parts driver username password host port database query => .model "URL"
    [("drivername", .text driver), ("username", username), ("password", password), ("host", host),
      ("port", .ofInt? port), ("database", database), ("query", .record query)]

end Url

/-- `c` numbers a connection and `n` a native database, both from one. -/
inductive Event where
  | createEngine (url : Url) (options : Record)
  | engineConnect
  | engineDispose
  | begin (c : Nat)
  | txCommit (c : Nat)
  | txRollback (c : Nat)
  | commit (c : Nat)
  | rollback (c : Nat)
  | close (c : Nat)
  | options (c : Nat) (isolation : Value)
  | exec (c : Nat) (sql : Value) (values : List Value)
  | nativeConnect (n : Nat) (database : Value)
  | nativeExecute (n : Nat) (sql : String)
  | nativeSerialize (n : Nat)
  | nativeDeserialize (n : Nat) (image : List UInt8)
  | nativeClose (n : Nat)
  | callback (image : List UInt8)
  | sleep (delay : Value)
  | notify (subscriber : Nat) (hook : String) (entity payload : Value)
  | span (s : Span)
  deriving Inhabited, BEq

/-- The values that an event tells. -/
def Event.values : Event → List Value
  | .createEngine url fields => [url.toValue, .record fields]
  | .options _ isolation => [isolation]
  | .exec _ sql values => sql :: values
  | .nativeConnect _ database => [database]
  | .sleep delay => [delay]
  | .notify _ _ entity payload => [entity, payload]
  | .span s => [.record s.attributes]
  | _ => []

/-- A log record with the fields that came with it. -/
structure LogEntry where
  level : LogLevel
  logger : String
  message : String
  extras : Record := []
  hasFailure : Bool := false
  deriving Inhabited

end SqlWeave
