import SqlWeave.Session.World

/-!
# Notifying subscribers

An event goes to the subscribers in their order, and to each once for every payload. Events about
an entity reach only the subscribers that listen to it; events about transactions reach all. The
first hook that fails ends the broadcast.
-/

namespace SqlWeave

namespace Subscriber

/-- Does the subscriber listen to an entity? -/
def listensTo (s : Subscriber) (subject : Option Registered) : Result Bool :=
  if s.target.isNull then .ok true
  else match subject with
    | none => .ok false
    | some (.entity e) =>
      .ok (s.target.sameObject e.target (s.sharesTarget e.id) || s.target.equals e.name)
    | some (.other _) => .error .noMember

/-- Is there anything to call for a hook? -/
def responds (s : Subscriber) (h : Hook) : Bool := s.hooks.contains h.word || !s.plain

/-- Is the subscriber told about an event? -/
def receives (s : Subscriber) (h : Hook) (subject : Option Registered) : Result Bool := do
  return (!h.isEntityHook || (← s.listensTo subject)) && s.responds h

end Subscriber

namespace Session

/-- The name that an event tells of what it is about. -/
def subjectName : Option Registered → Result Value
  | none => .ok .null
  | some (.entity e) => .ok e.name
  | some (.other _) => .error .noMember

/-- Calls the hook of subscriber number `i` for one payload. -/
def callHook (i : Nat) (s : Subscriber) (h : Hook) (subject : Option Registered) (payload : Value) :
    Session Unit := do
  log .debug "quarry.subscriber.broadcaster" "Broadcasting subscriber event"
    [("event", .text h.word), ("subscriber", .text ("Subscriber" ++ toString i))]
  if s.hooks.contains h.word then
    emit (.notify i h.word (← ofResult (subjectName subject)) payload)
    let answer := (← get).hookFault? i s h
    modify (·.afterHook i h)
    match answer with
    | some f => throw f
    | none => pure ()

/-- Calls the hook of one subscriber for each payload. -/
def callEach (i : Nat) (s : Subscriber) (h : Hook) (subject : Option Registered) :
    List Value → Session Unit
  | [] => pure ()
  | payload :: rest => do
    callHook i s h subject payload
    callEach i s h subject rest

/-- Tells the subscribers from number `i` on. -/
def tellFrom (i : Nat) (h : Hook) (subject : Option Registered) (payloads : List Value) :
    List Subscriber → Session Unit
  | [] => pure ()
  | s :: rest => do
    if ← ofResult (s.receives h subject) then callEach i s h subject payloads
    tellFrom (i + 1) h subject payloads rest

/-- Tells every subscriber that receives the event; without payloads once, with none. -/
def broadcast (h : Hook) (subject : Option Registered := none) (payloads : List Value := []) :
    Session Unit := do
  tellFrom 0 h subject (if payloads.isEmpty then [.null] else payloads) (← get).subscribers

end Session

end SqlWeave
