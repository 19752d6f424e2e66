import SqlWeave.Statement.Draft

/-!
# Parameters of a statement

Values are bound under names: those a caller chose, and generated ones. A step that builds a
statement may fail half-way; what it did before it failed stays, so a failure keeps the draft it
left behind.
-/

namespace SqlWeave

/-- A step on a draft. The draft it leaves is there also after a failure. -/
abbrev Build (α : Type) := ExceptT Failure (StateM Draft) α

/-- A parameter name: letters, digits, underscores and dots, and perhaps one line break at the
end. -/
def isParameterName (key : String) : Bool :=
  let cs := key.toList
  let cs := if cs.getLast? = some '\n' then cs.dropLast else cs
  !cs.isEmpty && cs.all Reference.isNameChar

namespace Build

/-- Binds a value to a name. Functions cannot be bound, and a name has few kinds of characters. -/
def setParameter (key value : Value) : Build Unit := do
  if value.isCallable then
    throw (Failure.validation ("Function parameter isn't supported in the parameters. Please check \"" ++
      key.display ++ "\" parameter.") key)
  match key.text? with
  | none => throw .wrongKind
  | some name =>
    if !isParameterName name then
      throw (Failure.validation ("QueryBuilder parameter keys may only contain numbers, letters, " ++
        "underscores, or periods.") key)
    modify fun d => { d with parameters := d.parameters.put name value }

/-- Binds every value of a record, in order. -/
def setParameters : Record → Build Unit
  | [] => pure ()
  | (key, value) :: rest => do
    setParameter (.text key) value
    setParameters rest

/-- Binds what is given by name; nothing but a record can be walked through so. -/
def setGiven (given : Value) : Build Unit :=
  match given with
  | .record r => setParameters r
  | _ => throw .noMember

/-- The name of the generated parameter number `n`. -/
def generatedName (n : Nat) : String := "orm_param_" ++ toString n

/-- Binds a value to the next generated name. -/
def createParameter (value : Value) : Build String := do
  let name := generatedName (← get).parameterIndex
  modify fun d => { d with parameterIndex := d.parameterIndex + 1 }
  setParameter (.text name) value
  pure name

/-- Binds what came with a condition; nothing, when it is empty. -/
def bindGiven (given : Value) : Build Unit := if given.truth then setGiven given else pure ()

end Build

end SqlWeave
