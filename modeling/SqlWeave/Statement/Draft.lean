import SqlWeave.Dialect.Identifier
import SqlWeave.Dialect.Paging
import SqlWeave.Dialect.Reference
import SqlWeave.Entity.Registry
import SqlWeave.Statement.Alias
import SqlWeave.Statement.Clause

/-!
# Statements under construction

A `Draft` holds what the fluent calls have said so far about one statement, except for the entries
of its WITH block, which may be statements themselves. What a call does not look at is kept as it was
given and fails, if it has to, when the statement is written. A `Builder` is a draft with its kind and
those entries; what an entry refers to is a parameter `σ`, so that the same calls serve a tree of
statements and a store of shared ones.
-/

namespace SqlWeave

/-- What a statement is written for: a dialect, and the entities that targets resolve to. -/
structure Catalog where
  dialect : Dialect
  entities : Registry := []
  deriving Inhabited

inductive SortDirection where
  | asc | desc
  deriving DecidableEq, Inhabited

namespace SortDirection

def all : List SortDirection := [.asc, .desc]

def word : SortDirection → String
  | .asc => "ASC"
  | .desc => "DESC"

def ofWord? (s : String) : Option SortDirection := all.find? (·.word = s)

end SortDirection

/-- Where absent values stand in an order. -/
inductive NullsPlace where
  | first | last
  deriving DecidableEq, Inhabited

namespace NullsPlace

def word : NullsPlace → String
  | .first => "NULLS FIRST"
  | .last => "NULLS LAST"

def ofWord? (s : String) : Option NullsPlace := [first, last].find? (·.word = s)

end NullsPlace

structure SortOrder where
  direction : SortDirection := .asc
  nulls : Option NullsPlace := none
  deriving DecidableEq, Inhabited

/-- An expression that is selected, and the name it is selected as. -/
structure Selection where
  expression : Value
  name : Value := .null
  deriving Inhabited

/-- What is handed back from a write. -/
inductive Returning where
  /-- SQL as it was given: a text or a word. -/
  | text (sql : Value)
  | columns (names : List Value)
  deriving Inhabited

/-- Nothing to hand back: no text, or no columns. -/
def Returning.isEmpty : Returning → Bool
  | .text sql => !sql.truth
  | .columns names => names.isEmpty

/-- What is handed back, as it was given. -/
def Returning.value : Returning → Value
  | .text sql => sql
  | .columns names => .list names

structure Draft where
  scope : Scope := {}
  wheres : List Clause := []
  returning : Option Returning := none
  useTransaction : Value := .bool false
  callListeners : Value := .bool true
  /-- Are column references qualified by the main alias? -/
  qualified : Bool := true
  parameters : Bindings := []
  parameterIndex : Nat := 0
  comment : Value := .null
  insertColumns : Option (List Value) := none
  /-- The rows to insert, or the values to set, as the caller gave them. -/
  values : Value := .null
  onIgnore : Value := .bool false
  updateEntity : Value := .bool true
  selects : List Selection := []
  orderBys : Keyed SortOrder := []
  limit : Option Nat := none
  offset : Option Nat := none
  withDeleted : Bool := false
  deriving Inhabited

/-- What an entry of a WITH block stands for. -/
inductive CteSource (σ : Type) where
  /-- What is written as it is displayed. -/
  | value (sql : Value)
  | statement (s : σ)

/-- A named entry of a WITH block. -/
structure Cte (σ : Type) where
  source : CteSource σ
  name : Value
  columns : Option (List Value) := none
  recursive : Value := .bool false
  materialized : Value := .null

/-- A statement under construction. -/
structure Builder (σ : Type) where
  kind : StatementKind := .select
  draft : Draft := {}
  ctes : List (Cte σ) := []

/-- A statement together with the statements of its WITH block, to any depth. A chain of entries
that comes back to itself has no end. -/
inductive Statement where
  | of (builder : Builder Statement)
  | endless

instance {σ : Type} : Inhabited (Builder σ) := ⟨{}⟩
instance : Inhabited Statement := ⟨.endless⟩

namespace Draft

/-- The main alias. -/
def main (d : Draft) : Option Alias := d.scope.main

/-- The entity behind the main alias. -/
def entity (d : Draft) : Result (Option Entity) :=
  match d.main with
  | some a => a.entity
  | none => .ok none

/-- A copy whose later changes do not reach this draft. -/
def copy (d : Draft) : Draft := { d with scope := d.scope.copy }

/-- The values that were given, one for each row. -/
def valueSets (d : Draft) : Result (List Value) :=
  match d.values with
  | .null => .ok []
  | .record r => .ok [.record r]
  | v => match v.elements? with
    | some items => .ok items
    | none => .error .wrongKind

/-- The values to set: of several rows the first. -/
def assigned (d : Draft) : Value :=
  match d.values with
  | .list [] => .record []
  | .list (v :: _) => v
  | v => v.orElse (.record [])

end Draft

end SqlWeave
