import SqlWeave.Failure

/-!
# Places for arguments

A call has places for its arguments, each with a name and perhaps a value of its own. Arguments fill
the places in order; the rest are filled by name, or keep what stands there. Some places are filled
by name alone. A call with too many arguments, with a name that has no open place, or with a place
left empty, is a call of the wrong kind.
-/

namespace SqlWeave

/-- A place for an argument: its name, and what stands there when none is given. -/
abbrev Place (α : Type) := String × Option α

namespace Place

variable {α : Type}

/-- A place that has to be filled. -/
def needed (name : String) : Place α := (name, none)

/-- A place with a value of its own. -/
def given (name : String) (a : α) : Place α := (name, some a)

/-- Fills one place from the arguments that are given by name. -/
def fillNamed (named : Assoc α) (p : Place α) : Result α :=
  match named.get? p.1, p.2 with
  | some a, _ => .ok a
  | none, some a => .ok a
  | none, none => .error .wrongKind

/-- Fills the places in order, then the open ones and those of `more` by name. -/
def fill (places : List (Place α)) (args : List α) (named : Assoc α) (more : List (Place α) := []) :
    Result (List α) := do
  if places.length < args.length then throw .wrongKind
  let vacant := places.drop args.length ++ more
  if named.any fun p => !vacant.any (·.1 = p.1) then throw .wrongKind
  let rest ← vacant.mapM (fillNamed named)
  return args ++ rest

end Place

end SqlWeave
