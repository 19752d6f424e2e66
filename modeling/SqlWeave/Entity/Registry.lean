import SqlWeave.Entity

/-!
# The registry of entities

What is registered is kept in the order of registration. A target is looked up by identity first,
then, when it is a text, by the name of an entity or of its table. A schema is looked up by its name.
A look-up that comes to something that is no entity fails.
-/

namespace SqlWeave

/-- What was registered: an entity, or a value that is none. -/
inductive Registered where
  | entity (e : Entity)
  | other (v : Value)
  deriving Inhabited

/-- What was registered, oldest first. -/
abbrev Registry := List Registered

namespace Registry

/-- What a target is looked up by. -/
def lookupKey : Value → Value
  | .schema name _ => .text name
  | v => v

/-- The first entity with a property. -/
def first? (holds : Entity → Bool) : Registry → Result (Option Entity)
  | [] => .ok none
  | .entity e :: rest => if holds e then .ok (some e) else first? holds rest
  | .other _ :: _ => .error .noMember

/-- Is the entity's target this very object? -/
def hasTarget (key : Value) (e : Entity) : Bool := e.target.sameObject key e.sharesTarget

/-- Is the entity, or its table, called so? -/
def isCalled (name : String) (e : Entity) : Bool := e.name.text? = some name || e.table = name

/-- The entity that a target stands for. -/
def find? (r : Registry) (target : Value) : Result (Option Entity) := do
  let key := lookupKey target
  match ← r.first? (hasTarget key), key.text? with
  | some e, _ => .ok (some e)
  | none, some name => r.first? (isCalled name)
  | none, none => .ok none

/-- The entity that a target stands for, or a failure that names the target. -/
def get (r : Registry) (target : Value) : Result Entity := do
  match ← r.find? target with
  | some e => .ok e
  | none => .error (.problem (.entityUnknown target.targetName) none)

/-- The entities alone. -/
def entities (r : Registry) : List Entity :=
  r.filterMap fun
    | .entity e => some e
    | .other _ => none

end Registry

end SqlWeave
