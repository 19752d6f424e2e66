import SqlWeave.Entity
import SqlWeave.Place

/-!
# Questions to an entity

A caller asks an entity, or one of its columns, by the name of the question, and may give their
fields new values. A refused assignment changes nothing.
-/

namespace SqlWeave.Entity

/-- A question or an assignment, to an entity or to the column of a number. -/
inductive Call where
  | ask (method : String) (args : List Value)
  | assign (field : String) (v : Value)
  | askColumn (i : Nat) (method : String) (args : List Value)
  | assignColumn (i : Nat) (field : String) (v : Value)
  deriving Inhabited

inductive Answer where
  | value (v : Value)
  | column (c : Column)
  | entity (e : Entity)
  deriving Inhabited

/-- A record that may be absent. -/
def Answer.record? : Option Record → Answer
  | some r => .value (.record r)
  | none => .value .null

/-- The questions to a column, with the places for their arguments. -/
def columnQuestions : Assoc (List (Place Value)) :=
  [("create_value_map", [Place.needed "value"]), ("get_entity_value", [Place.needed "entity"]),
    ("to_dict", [])]

/-- The questions to an entity, with the places for their arguments. -/
def questions : Assoc (List (Place Value)) :=
  [("find_column_with_property_name", [Place.needed "property_name"]),
    ("ensure_entity_id_map", [Place.needed "id_value"]), ("get_entity_id_map", [Place.needed "entity"]),
    ("to_dict", [])]

/-- The arguments of a question in their places. -/
def placed (known : Assoc (List (Place Value))) (method : String) (args : List Value)
    (named : Assoc Value) : Result (List Value) :=
  match known.get? method with
  | some places => Place.fill places args named
  | none => .error .noMember

/-- Answers a question to a column. -/
def askColumn (c : Column) (method : String) (args : List Value) (named : Assoc Value := []) :
    Result Answer := do
  match method, ← placed columnQuestions method args named with
  | "create_value_map", [v] => return .value (.record (c.valueMap v))
  | "get_entity_value", [v] => return .value (c.valueIn v)
  | _, _ => return .value (.record c.fields)

/-- Answers a question to an entity. -/
def ask (e : Entity) (method : String) (args : List Value) (named : Assoc Value := []) :
    Result Answer := do
  match method, ← placed questions method args named with
  | "find_column_with_property_name", [name] => match name.text?.bind e.column? with
    | some c => return .column c
    | none => return .value .null
  | "ensure_entity_id_map", [v] => return .value (.record (← e.idMap v))
  | "get_entity_id_map", [v] => return .record? (e.keyMap v)
  | _, _ => return .value (.record e.fields)

/-- Answers a call, with the entity as the call leaves it. -/
def call (e : Entity) : Call → Result (Answer × Entity)
  | .ask method args => do return (← e.ask method args, e)
  | .assign field v => do
    let e ← e.assign field v
    return (.entity e, e)
  | .askColumn i method args => match e.columns[i]? with
    | none => .error .missingIndex
    | some c => do return (← askColumn c method args, e)
  | .assignColumn i field v => match e.columns[i]? with
    | none => .error .missingIndex
    | some c => do
      let c ← c.assign field v
      return (.column c, { e with columns := e.columns.set i c })

end SqlWeave.Entity
