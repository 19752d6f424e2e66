import SqlWeave.Failure

/-!
# Traced calls

A traced call is reported as a span: what was called, with which attributes, and how it failed. The
attributes are those that every call has and those that follow from the arguments; absent ones are
left out.
-/

namespace SqlWeave

/-- A finished span. -/
structure Span where
  name : String
  kind : String
  attributes : Record
  /-- The classes of the failures that were recorded. -/
  recorded : List String := []
  /-- The text of the failure that the span ended with. -/
  failure : Option String := none
  deriving Inhabited, BEq

/-- How the calls of a function are traced. -/
structure Tracing where
  /-- What the spans are called; when it is empty they are called like the function. -/
  name : String := ""
  kind : String := "CLIENT"
  /-- The attributes of every call. -/
  fixed : Record := []
  /-- The attributes that follow from the arguments of a call. -/
  added : Result Record := .ok []

namespace Tracing

/-- The logger of the records about tracing. -/
def logger : String := "quarry.utils.decorators"

/-- The values that are there. -/
def present (r : Record) : Record := r.filter fun p => !p.2.isNull

/-- The attributes of a call. When those of the arguments cannot be told, the others remain. -/
def attributes (t : Tracing) : Record :=
  match t.added with
  | .ok r => Assoc.merge (present t.fixed) (present r)
  | .error _ => present t.fixed

/-- What is logged when the attributes of the arguments cannot be told. -/
def warning? (t : Tracing) : Option String :=
  match t.added with
  | .ok _ => none
  | .error f => some ("trace attribute getter failed: " ++ f.text)

/-- The span of a call of the function `function` with its result. -/
def span {α : Type} (t : Tracing) (function : String) (r : Result α) : Span :=
  let name := if t.name = "" then function else t.name
  match r with
  | .ok _ => { name, kind := t.kind, attributes := t.attributes }
  | .error f =>
    { name, kind := t.kind, attributes := t.attributes, recorded := [f.className], failure := some f.text }

end Tracing

end SqlWeave
