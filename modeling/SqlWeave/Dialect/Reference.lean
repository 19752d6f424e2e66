import SqlWeave.Dialect.Identifier
import SqlWeave.Text.Holds
import SqlWeave.Text.Word
import SqlWeave.Value.Key

/-!
# Parameter references

`:name` refers to one value and `:...name` to every element of a sequence. A colon after a word
character or another colon opens no reference, so `12:30` and `x::int` stay as they are; nor does a
reference whose name is not bound change.

`scan` cuts a text into references and plain characters and loses nothing; `bindReferences` puts the
dialect's placeholders for the references that are bound, and lists their values in order.
-/

namespace SqlWeave

/-- A reference to a bound value, or to the elements of one. -/
structure Reference where
  expands : Bool
  name : String
  deriving DecidableEq, Inhabited

/-- A piece of SQL text. -/
inductive Piece where
  | plain (c : Char)
  | reference (r : Reference)
  deriving DecidableEq, Inhabited

namespace Reference

/-- The characters of a parameter name. -/
def isNameChar (c : Char) : Bool := c.isAlphanum || c = '_' || c = '.'

/-- The reference as it stands in the text. -/
def text (r : Reference) : String := (if r.expands then ":..." else ":") ++ r.name

/-- A character after which a colon opens no reference. -/
def blocks (c : Char) : Bool := c = ':' || Text.isWord c

/-- The reference that the characters after a colon make: the longest run of name characters, and
an expansion when three dots come before at least one more of them. -/
def afterColon? (cs : List Char) : Option Reference :=
  match cs.takeWhile isNameChar with
  | [] => none
  | '.' :: '.' :: '.' :: c :: more => some ⟨true, String.ofList (c :: more)⟩
  | name => some ⟨false, String.ofList name⟩

/-- Cuts a text into pieces. `blocked` says whether the character before blocks a reference, `inside`
how many of the next characters belong to the reference just found. -/
def scan (blocked : Bool) : Nat → List Char → List Piece
  | _, [] => []
  | inside + 1, c :: rest => scan (blocks c) inside rest
  | 0, c :: rest =>
    if c = ':' && !blocked then
      match afterColon? rest with
      | some r => .reference r :: scan true (r.text.length - 1) rest
      | none => .plain c :: scan true 0 rest
    else .plain c :: scan (blocks c) 0 rest

/-- The pieces of a whole text. -/
def pieces (sql : String) : List Piece := scan false 0 sql.toList

end Reference

/-- The reference that a piece is. -/
def Piece.reference? : Piece → Option Reference
  | .reference r => some r
  | .plain _ => none

/-- The references of a text, in order. -/
def Reference.all (sql : String) : List Reference := (pieces sql).filterMap Piece.reference?

/-- Named values, in the order in which their names were first bound. -/
abbrev Bindings := Assoc Value

namespace Dialect

/-- Writes every percent sign twice, where the dialect reads one as the start of a placeholder. -/
def guardPercent (d : Dialect) (sql : String) : String :=
  if d.doublesPercent then
    String.ofList (sql.toList.flatMap fun c => if c = '%' then ['%', '%'] else [c])
  else sql

/-- What a parameter name is bound to, if it is bound. -/
abbrev LookUp := String → Result (Option Value)

/-- What stands for a reference that is bound, and the values it binds. -/
def bindValue (d : Dialect) (r : Reference) (value : Value) : Result (String × List Value) :=
  if r.expands then
    match value.elements? with
    | none => .error .wrongKind
    | some [] => .ok ("NULL", [])
    | some items => .ok (String.intercalate ", " (items.map fun _ => d.placeholder), items.map Value.plain)
  else .ok (d.placeholder, [value.plain])

/-- What stands for a piece in the rewritten text, and the values it binds. -/
def bindPiece (d : Dialect) (lookUp : LookUp) : Piece → Result (String × List Value)
  | .plain c => .ok (String.singleton c, [])
  | .reference r => do
    match ← lookUp r.name with
    | none => return (r.text, [])
    | some value => d.bindValue r value

/-- Binds pieces one after the other. -/
def bindPieces (d : Dialect) (lookUp : LookUp) : List Piece → Result (String × List Value)
  | [] => .ok ("", [])
  | p :: rest => do
    let here ← d.bindPiece lookUp p
    let more ← d.bindPieces lookUp rest
    .ok (here.1 ++ more.1, here.2 ++ more.2)

/-- The text with placeholders for its bound references, and the values in placeholder order. Where
nothing is bound the text has no references to replace. -/
def bindReferences (d : Dialect) (sql : String) (bound : Bindings) : Result (String × List Value) :=
  let guarded := d.guardPercent sql
  if bound.isEmpty then .ok (guarded, [])
  else d.bindPieces (fun name => .ok (bound.get? name)) (Reference.pieces guarded)

/-- What a name is bound to by any value: a record binds its keys. A text or a collection that holds
the name cannot tell a value for it. -/
def lookUpIn (given : Value) (name : String) : Result (Option Value) :=
  let held (b : Bool) : Result (Option Value) := if b then .error .wrongKind else .ok none
  match given with
  | .record r => .ok (Assoc.get? r name)
  | .list xs | .tuple xs | .set xs => held ((Value.text name).isAmong xs)
  | .text s | .keyword _ s => held (Text.holds name.toList s.toList)
  | .model .. => .ok none
  | _ => .error .wrongKind

/-- A statement of any value with parameters of any value. Where nothing is bound it stays as it is,
but for its percent signs. -/
def bindValues (d : Dialect) (sql given : Value) : Result (Value × List Value) := do
  let guarded ← if d.doublesPercent then (nameText sql).map fun s => .text (d.guardPercent s) else pure sql
  if !given.truth then return (guarded, [])
  match guarded.text? with
  | none => throw .wrongKind
  | some s =>
    let (text, values) ← d.bindPieces (lookUpIn given) (Reference.pieces s)
    return (.text text, values)

end Dialect

end SqlWeave
