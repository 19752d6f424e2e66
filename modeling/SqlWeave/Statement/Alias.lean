import SqlWeave.Entity.Registry
import SqlWeave.Value.Key

/-!
# Aliases

A statement refers to its tables by aliases. An alias is an object of its own: two aliases with the
same fields are still two, which is why each carries an identity. One of them may be the main alias,
the table that the statement is about. An alias that left the list can still be held by a caller.

Main facts: making an alias the main one drops the main alias before it and keeps the others in
order, and copying a scope gives every alias a new identity.
-/

namespace SqlWeave

structure Alias where
  /-- Which alias object this is. -/
  id : Nat
  name : Value
  /-- What stands behind the alias, if anything does: an entity, or a value that is none. -/
  subject : Option Registered := none
  /-- The table's path, when no entity stands behind the alias. -/
  path : Value := .null
  /-- The part of the statement that the alias was made for. -/
  role : Value := .text "from"
  deriving Inhabited

/-- The aliases of a statement, and the supply of identities for new ones. -/
structure Scope where
  all : List Alias := []
  main : Option Alias := none
  /-- The aliases that are not in the list. -/
  former : List Alias := []
  next : Nat := 0
  deriving Inhabited

namespace Alias

/-- The entity behind the alias. What is no entity has none of its parts. -/
def entity (a : Alias) : Result (Option Entity) :=
  match a.subject with
  | none => .ok none
  | some (.entity e) => .ok (some e)
  | some (.other _) => .error .noMember

/-- The entity behind the alias where its columns are named. What counts as false names none. -/
def namingEntity (a : Alias) : Result (Option Entity) :=
  match a.subject with
  | some (.other v) => if v.truth then .error .noMember else .ok none
  | _ => a.entity

/-- What the alias stands for: its entity's target, or its path. -/
def target (a : Alias) : Result Value :=
  match a.subject with
  | none => .ok a.path
  | some (.entity e) => .ok e.target
  | some (.other v) => match v.attribute? "target" with
    | some t => .ok t
    | none => .error .noMember

/-- What stands behind the alias as an object that callers hold. -/
def metadata (a : Alias) : Value :=
  match a.subject with
  | none => .null
  | some (.entity e) => e.toValue
  | some (.other v) => v

/-- The alias with all of its fields, as it is displayed. -/
def model (a : Alias) : Value :=
  .model "Alias" [("name", a.name), ("metadata", a.metadata), ("table_path", a.path), ("type", a.role)]

/-- The alias of a builder as an object that callers hold. -/
def toValue (builder : Nat) (a : Alias) : Value :=
  .handle (.tableAlias builder a.id) "Alias" (.text a.model.literal)

end Alias

namespace Scope

/-- A new alias object, which is not in the list. -/
def fresh (s : Scope) (name : Value) (subject : Option Registered) (path role : Value) :
    Alias × Scope :=
  let a : Alias := { id := s.next, name, subject, path, role }
  (a, { s with next := s.next + 1, former := s.former ++ [a] })

/-- A new alias at the end of the list. -/
def create (s : Scope) (name : Value) (subject : Option Registered := none) (path : Value := .null)
    (role : Value := .text "from") : Alias × Scope :=
  let a : Alias := { id := s.next, name, subject, path, role }
  (a, { s with all := s.all ++ [a], next := s.next + 1 })

/-- The aliases but the one of an identity. -/
def without (id : Nat) (as : List Alias) : List Alias := as.filter (·.id ≠ id)

/-- Makes `a` the only main alias: the one before it leaves the list, and `a` joins the list when it
is not there. -/
def setMain (s : Scope) (a : Alias) : Scope :=
  let (kept, dropped) := match s.main with
    | some m => if m.id = a.id then (s.all, []) else (without m.id s.all, [m])
    | none => (s.all, [])
  { s with
    all := if kept.any (·.id = a.id) then kept else kept ++ [a]
    main := some a
    former := without a.id s.former ++ dropped }

/-- The first alias of this name. -/
def find? (s : Scope) (name : Value) : Option Alias := s.all.find? fun a => a.name.equals name

/-- The alias of an identity. -/
def get? (s : Scope) (id : Nat) : Option Alias := (s.all ++ s.former).find? (·.id = id)

/-- Changes every alias. -/
def map (s : Scope) (f : Alias → Alias) : Scope :=
  { s with all := s.all.map f, main := s.main.map f, former := s.former.map f }

/-- Gives the aliases of a list the identities from `next` on. -/
def renumber (next : Nat) : List Alias → List Alias
  | [] => []
  | a :: rest => { a with id := next } :: renumber (next + 1) rest

/-- A copy with new alias objects; its main alias is the copy of the main alias. -/
def copy (s : Scope) : Scope :=
  let all := renumber s.next s.all
  let next := s.next + s.all.length
  match s.main with
  | none => { all, main := none, next }
  | some m =>
    match all[s.all.findIdx (·.id = m.id)]? with
    | some a => { all, main := some a, next }
    | none => { all, main := some { m with id := next }, next := next + 1 }

end Scope

end SqlWeave
