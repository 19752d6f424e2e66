import SqlWeave.Number.Whole
import SqlWeave.Statement.Criterion

/-!
# Fluent calls

Each call says one more thing about a statement. `Builder.apply` makes a call and gives the builder
that the caller goes on with, together with the failure when the call failed. A conversion to
another kind, and a clone, start from a copy; every other call changes the builder itself.
-/

namespace SqlWeave

/-- A call on a builder; `σ` is what an entry of a WITH block may refer to. -/
inductive Call (σ : Type) where
  /-- A conversion to a SELECT; absence keeps what was selected. -/
  | toSelect (selection name : Value)
  | toInsert
  | toUpdate (target values : Value)
  | toDelete
  | clone
  | comment (text : Value)
  | useTransaction (on : Value)
  | callListeners (on : Value)
  | addCte (source : CteSource σ) (name columns recursive materialized : Value)
  | setParameter (key value : Value)
  | setParameters (given : Value)
  | where (link : Connector) (c : Criterion) (given : Value)
  | whereInIds (link : Connector) (ids : Value)
  | from (target name : Value)
  | into (target columns : Value)
  | returning (columns : Value)
  | values (given : Value)
  | orIgnore (on : Value)
  | updateEntity (on : Value)
  | set (given : Value)
  | select (selection name : Value)
  | addSelect (selection name : Value)
  | orderBy (sort order nulls : Value)
  | addOrderBy (sort order nulls : Value)
  | limit (given : Value)
  | offset (given : Value)
  | withDeleted

namespace Call

/-- Calls that start a new builder. -/
def isConversion {σ : Type} : Call σ → Bool
  | .toSelect .. | .toInsert | .toUpdate .. | .toDelete | .clone => true
  | _ => false

end Call

namespace Build

/-- Makes an alias for an entity or, when the target is a text that no entity is called by, for a
plain table. A name that counts as false is none. -/
def createFromAlias (cat : Catalog) (target name : Value) : Build Alias := do
  let key := Registry.lookupKey target
  match ← MonadExcept.ofExcept (cat.entities.find? key), key.text? with
  | some e, _ =>
    let (a, scope) := (← get).scope.create (name.orElse (.text e.table)) (some (.entity e))
    modify fun d => { d with scope }
    pure a
  | none, some _ =>
    let (a, scope) := (← get).scope.create (name.orElse key) none key
    modify fun d => { d with scope }
    pure a
  | none, none => throw (.problem (.entityUnknown key.targetName) none)

/-- Makes the alias of a target the main one. -/
def setTarget (cat : Catalog) (target : Value) (name : Value := .null) : Build Unit := do
  let a ← createFromAlias cat target name
  modify fun d => { d with scope := d.scope.setMain a }

/-- The direction that a value names, in any case. -/
def direction (order : Value) : Build SortDirection := do
  let word := Text.upper ((order.attribute? "value").getD order).display
  match SortDirection.ofWord? word with
  | some d => pure d
  | none => throw (.badValue (Text.quoted word ++ " is not a valid OrderDirection"))

/-- Where absent values are put. -/
def nullsPlace : Value → Build (Option NullsPlace)
  | .null => pure none
  | v => match v.text?.bind NullsPlace.ofWord? with
    | some p => pure (some p)
    | none => throw (Failure.validation ("SelectQueryBuilder.add_order_by \"nulls\" can accept only " ++
        "\"NULLS FIRST\" and \"NULLS LAST\" values.") (.text "nulls") v)

/-- Sorts by one more key. -/
def addSortKey (sort order nulls : Value) : Build Unit := do
  let direction ← direction order
  let nulls ← nullsPlace nulls
  if !sort.isKey then throw .wrongKind
  modify fun d => { d with orderBys := d.orderBys.put sort { direction, nulls } }

/-- Sorts by every key of a record, each in the direction it is given. -/
def addSortKeys : Record → Build Unit
  | [] => pure ()
  | (key, order) :: rest => do
    addSortKey (.text key) order .null
    addSortKeys rest

def addOrderBy (sort order nulls : Value) : Build Unit :=
  match sort with
  | .record keys => addSortKeys keys
  | _ => addSortKey sort order nulls

/-- A limit or an offset: a whole number that is not negative, or nothing. -/
def paging (name : String) (given : Value) : Build (Option Nat) :=
  if given.isNull then pure none
  else
    let refused (words : String) : Failure :=
      Failure.validation ("Provided \"" ++ name ++ "\" value " ++ words) (.text name) given
    match Number.whole given with
    | .ok n => if n < 0 then throw (refused "must not be negative.") else pure (some n.toNat)
    | .error f =>
      if f.className = "OverflowError" then throw f
      else throw (refused "is not a number. Please provide a numeric value.")

/-- Asks for columns to be handed back, where the dialect can. -/
def setReturning (cat : Catalog) (kind : StatementKind) (columns : Value) : Build Unit := do
  if !cat.dialect.returns kind then
    throw (.problem (.returningUnsupported (.text kind.word)) none)
  match columns.text?, columns.elements? with
  | some _, _ => modify fun d => { d with returning := some (.text columns) }
  | none, some names => modify fun d => { d with returning := some (.columns names) }
  | none, none => throw .wrongKind

/-- What a selection selects: each item of a list by itself, anything else under its name. -/
def selected (selection name : Value) : List Selection :=
  match selection with
  | .list xs | .tuple xs => xs.map fun v => { expression := v }
  | v => [{ expression := v, name }]

/-- The names of columns that are asked for; nothing that counts as false asks for any. -/
def columnNames (columns : Value) : Result (Option (List Value)) :=
  if !columns.truth then .ok none
  else match columns.elements? with
    | some names => .ok (some names)
    | none => .error .wrongKind

/-- Makes a call that changes the draft only. -/
def call {σ : Type} (cat : Catalog) (kind : StatementKind) : Call σ → Build Unit
  | .comment text => modify fun d => { d with comment := text }
  | .useTransaction on => modify fun d => { d with useTransaction := on }
  | .callListeners on => modify fun d => { d with callListeners := on }
  | .setParameter key value => setParameter key value
  | .setParameters given => setGiven given
  | .where link c given => whereCall cat.dialect link c given
  | .whereInIds link ids => whereInIds cat.dialect link ids
  | .from target name => setTarget cat target name
  | .into target columns => do
    setTarget cat target
    let insertColumns ← MonadExcept.ofExcept (columnNames columns)
    modify fun d => { d with insertColumns }
  | .returning columns => setReturning cat kind columns
  | .values given => modify fun d => { d with values := given }
  | .orIgnore on => do
    if on.truth && cat.dialect.capabilities.insertIgnore.isNone then
      throw (.unsupported (cat.dialect.word ++ " does not support ignoring conflicting inserts"))
    modify fun d => { d with onIgnore := on }
  | .updateEntity on => modify fun d => { d with updateEntity := on }
  | .set given => modify fun d => { d with values := given }
  | .select selection name => modify fun d =>
    { d with selects := if selection.isNull then [] else selected selection name }
  | .addSelect selection name => modify fun d => { d with selects := d.selects ++ selected selection name }
  | .orderBy sort order nulls => do
    modify fun d => { d with orderBys := [] }
    if !sort.isNull then addOrderBy sort order nulls
  | .addOrderBy sort order nulls => addOrderBy sort order nulls
  | .limit given => do
    let n ← paging "limit" given
    modify fun d => { d with limit := n }
  | .offset given => do
    let n ← paging "offset" given
    modify fun d => { d with offset := n }
  | .withDeleted => modify fun d => { d with withDeleted := true }
  | .toSelect .. | .toInsert | .toUpdate .. | .toDelete | .clone | .addCte .. => pure ()

end Build

namespace Builder

variable {σ : Type}

/-- A copy under another kind. Only a SELECT qualifies its column references; a statement that once
was another kind keeps them bare. -/
def convert (b : Builder σ) (kind : StatementKind) : Builder σ :=
  let draft := b.draft.copy
  let bare := kind = .update || kind = .delete
  { b with kind, draft := { draft with qualified := if bare then false else draft.qualified } }

/-- Runs a step on the draft. -/
def step (b : Builder σ) (s : Build Unit) : Builder σ × Option Failure :=
  match StateT.run (ExceptT.run s) b.draft with
  | (.ok _, draft) => ({ b with draft }, none)
  | (.error f, draft) => ({ b with draft }, some f)

/-- Makes a call: the builder to go on with, and how the call failed, if it did. A conversion that
fails leaves no new builder worth going on with. -/
def apply (cat : Catalog) (b : Builder σ) : Call σ → Builder σ × Option Failure
  | .toSelect selection name =>
    let new := b.convert .select
    if selection.isNull then (new, none) else new.step (Build.call cat .select (.select selection name : Call σ))
  | .toInsert => (b.convert .insert, none)
  | .toUpdate target values =>
    (b.convert .update).step do
      if !target.isNull then Build.setTarget cat target
      if !values.isNull then Build.call cat .update (.set values : Call σ)
  | .toDelete => (b.convert .delete, none)
  | .clone => (b.convert b.kind, none)
  | .addCte source name columns recursive materialized =>
    if cat.dialect.capabilities.cte.enabled then
      match Build.columnNames columns with
      | .ok columns => ({ b with ctes := b.ctes ++ [{ source, name, columns, recursive, materialized }] }, none)
      | .error f => (b, some f)
    else (b, some (.unsupported (cat.dialect.word ++ " does not support common table expressions")))
  | c => b.step (Build.call cat b.kind c)

end Builder

end SqlWeave
