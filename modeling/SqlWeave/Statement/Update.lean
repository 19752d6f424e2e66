import SqlWeave.Statement.Insert

/-!
# The assignments of an UPDATE

The caller's values come first, in their order. An entity's update-date column and version column
follow, each unless the caller assigns it. An assignment refers to the parameter of its position, or
stands for the SQL that a function supplies.
-/

namespace SqlWeave.Update

/-- A column and what is assigned to it. -/
abbrev Assignment := String × Value

/-- The caller's values under the names of their columns. -/
def explicit (e : Option Entity) (values : Record) : List Assignment :=
  values.map fun p => (match e with
    | some e => e.columnName p.1
    | none => p.1, p.2)

/-- The assignments that an entity adds to those that are there. -/
def automatic (dialect : Dialect) (e : Entity) (given : List Assignment) : List Assignment :=
  let free (c : Column) : Bool := !(given.map Prod.fst).contains c.database
  (match e.updateDate? with
    | some c => if free c then [(c.database, .fragment "CURRENT_TIMESTAMP")] else []
    | none => []) ++
  (match e.version? with
    | some c => if free c then [(c.database, .fragment (dialect.escape c.database ++ " + 1"))] else []
    | none => [])

/-- Every assignment, in order. -/
def assignments (dialect : Dialect) (d : Draft) : Result (List Assignment) :=
  match d.assigned with
  | .record values => do
    let e ← d.entity
    let given := explicit e values
    return match e with
      | some e => given ++ automatic dialect e given
      | none => given
  | _ => .error .noMember

/-- The parameter of an assignment. -/
def parameterName (i : Nat) : String := "upd_" ++ toString i

/-- The values of the assignments from number `i` on. -/
def parametersFrom (i : Nat) : List Assignment → Bindings
  | [] => []
  | (_, v) :: rest =>
    if v.isCallable then parametersFrom (i + 1) rest
    else (parameterName i, v) :: parametersFrom (i + 1) rest

/-- The values that the statement refers to. -/
def parameters (dialect : Dialect) (d : Draft) : Result Bindings := do
  .ok (parametersFrom 0 (← assignments dialect d))

/-- The assignments from number `i` on as SQL. -/
def render (dialect : Dialect) (i : Nat) : List Assignment → Result (List String)
  | [] => .ok []
  | (name, v) :: rest => do
    let here ← if v.isCallable then v.supplied else .ok (":" ++ parameterName i)
    let more ← render dialect (i + 1) rest
    .ok ((dialect.escape name ++ " = " ++ here) :: more)

end SqlWeave.Update
