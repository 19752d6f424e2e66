import SqlWeave.Assoc
import SqlWeave.Failure.Code
import SqlWeave.Number.Double

/-!
# Values

What a caller passes to a call, binds to a statement or gives to a settings field is a value, and so
is what a backend answers: a scalar, a collection, an object with named parts, or a reference to an
object of the session, such as a builder. Any value may stand anywhere; what a place cannot use
fails only where it is used.
-/

namespace SqlWeave

/-- A reference to an object of a session. -/
inductive Handle where
  | source
  | driver
  | engine
  /-- A statement builder. -/
  | builder (id : Nat)
  /-- What a builder has said so far. -/
  | draft (id : Nat)
  /-- An alias of a builder. -/
  | tableAlias (builder id : Nat)
  | runner (id : Nat)
  | entity (id : Nat)
  /-- A column of an entity. -/
  | column (entity index : Nat)
  /-- A native embedded database. -/
  | native (id : Nat)
  | connection (id : Nat)
  /-- A part of an object that has no parts of its own to show. -/
  | part (owner name : String)
  deriving DecidableEq, Inhabited

inductive Value where
  | null
  | bool (b : Bool)
  | int (n : Int)
  | float (x : Double)
  | text (s : String)
  | bytes (data : List UInt8)
  | list (items : List Value)
  | tuple (items : List Value)
  | set (items : List Value)
  | record (fields : List (String × Value))
  /-- A member of an enumeration that stands for a value. -/
  | member (value : Value)
  /-- A member of an enumeration of words; it counts as the word. -/
  | keyword (className word : String)
  /-- A function without arguments that supplies SQL text. -/
  | fragment (sql : String)
  /-- A function of a statement: SQL text with holes, and the values to bind in them. -/
  | template (sql : String) (bound : List Value)
  /-- A function that receives bytes, and may refuse them with a class and a text. -/
  | receiver (refusal : Option (String × String))
  /-- A class: its name, and which of the classes of this name it is. -/
  | type (name : String) (id : Nat := 0)
  /-- A declared entity schema: its name, and which of the schemas of this name it is. -/
  | schema (name : String) (id : Nat := 0)
  /-- An object with attributes. -/
  | object (attributes : List (String × Value))
  /-- An object of a class with declared fields. -/
  | model (className : String) (fields : List (String × Value))
  /-- A group of conditions: the calls that make it, each a name and its arguments. -/
  | group (negated : Bool) (calls : List (String × List Value))
  /-- An exception object: its class and its text. -/
  | exception (kind message : String)
  /-- A standard error code. -/
  | code (c : ErrorCode)
  /-- A text that is not to be shown. -/
  | secret (s : String)
  /-- An object of the session: the name of its class, and how it is displayed, as a text or like
  a model. -/
  | handle (ref : Handle) (kind : String) (shown : Value)
  deriving Inhabited, BEq

/-- A record's fields: values by name, in order. -/
abbrev Record := Assoc Value

namespace Value

/-- A value that can be called: suppliers, receivers and classes. -/
def isCallable : Value → Bool
  | .fragment _ | .template .. | .receiver _ | .type .. => true
  | _ => false

def isNull : Value → Bool
  | .null => true
  | _ => false

/-- The text that a text value or a word of an enumeration is. -/
def text? : Value → Option String
  | .text s | .keyword _ s => some s
  | _ => none

def record? : Value → Option Record
  | .record r => some r
  | _ => none

/-- The object that a value refers to. -/
def handle? : Value → Option Handle
  | .handle ref .. => some ref
  | _ => none

/-- The whole number that a number or a truth value counts as. -/
def int? : Value → Option Int
  | .int n => some n
  | .bool b => some (if b then 1 else 0)
  | _ => none

/-- Emptiness, zero, falsehood and absence count as false; all else counts as true. -/
def truth : Value → Bool
  | .null => false
  | .bool b => b
  | .int n => n ≠ 0
  | .float x => !(x.sameValue (Double.ofInt 0))
  | .text s | .keyword _ s | .secret s => s ≠ ""
  | .bytes b => !b.isEmpty
  | .list xs | .tuple xs | .set xs => !xs.isEmpty
  | .record fs => !fs.isEmpty
  | _ => true

/-- A value, or another one in the place of a value that counts as false. -/
def orElse (v other : Value) : Value := if v.truth then v else other

/-- The value in a place that may be empty. -/
def ofOption : Option Value → Value
  | some v => v
  | none => .null

def ofText? : Option String → Value
  | some s => .text s
  | none => .null

def ofInt? : Option Int → Value
  | some n => .int n
  | none => .null

/-- The elements of a value that can be walked through: a text's characters, a record's keys, the
numbers of bytes, the items of a collection, the fields of a model. -/
def elements? : Value → Option (List Value)
  | .list xs | .tuple xs | .set xs => some xs
  | .text s | .keyword _ s => some (s.toList.map fun c => .text (String.singleton c))
  | .record fs => some (fs.map fun p => .text p.1)
  | .bytes b => some (b.map fun x => .int (Int.ofNat x.toNat))
  | .model _ fs => some (fs.map fun p => .tuple [.text p.1, p.2])
  | _ => none

/-- The value an enumeration's member stands for; any other value stands for itself. -/
def plain : Value → Value
  | .member v => v
  | .keyword _ w => .text w
  | .code c => .text c.word
  | v => v

/-- The label of a word of an enumeration: the word in capitals. -/
def labelOf (word : String) : String := word.toUpper

/-- An attribute of an object. Numbers have a real and an imaginary part, a numerator and a
denominator; members of enumerations have a value and a name, exceptions have their arguments. -/
def attribute? (v : Value) (name : String) : Option Value :=
  match v with
  | .object as => Assoc.get? as name
  | .model _ fs => Assoc.get? fs name
  | .member x => if name = "value" then some x else none
  | .keyword _ w =>
    if name = "value" then some (.text w) else if name = "name" then some (.text (labelOf w)) else none
  | .code c =>
    if name = "value" then some (.text c.word) else if name = "name" then some (.text c.label) else none
  | .exception _ message => if name = "args" then some (.tuple [.text message]) else none
  | .type n _ => if name = "__name__" then some (.text n) else none
  | .schema n _ => if name = "name" then some (.text n) else none
  | .float x => match name with
    | "real" => some (.float x)
    | "imag" => some (.float (Double.ofInt 0))
    | _ => none
  | v => match v.int?, name with
    | some n, "real" | some n, "numerator" => some (.int n)
    | some _, "imag" => some (.int 0)
    | some _, "denominator" => some (.int 1)
    | _, _ => none

mutual
/-- A value in which objects that have a value are reduced to it, through records and lists. -/
def reduced : Value → Value
  | .record fs => .record (reducedFields fs)
  | .model _ fs => .record (reducedParts fs)
  | .list xs => .list (reducedItems xs)
  | v => (v.attribute? "value").getD v

def reducedItems : List Value → List Value
  | [] => []
  | x :: xs => reduced x :: reducedItems xs

def reducedFields : List (String × Value) → List (String × Value)
  | [] => []
  | (k, v) :: rest => (k, reduced v) :: reducedFields rest

/-- The fields of a model that are there. -/
def reducedParts : List (String × Value) → List (String × Value)
  | [] => []
  | (k, v) :: rest => if v.isNull then reducedParts rest else (k, reduced v) :: reducedParts rest
end

/-- The one object that two values are. Absence, truth values, small numbers, characters below
`0x100`, empty and one-byte sequences, members of one name, one class or schema and references to one
object are one object wherever they stand. Other numbers, texts and bytes that are equal may be one
object or two, which `shared` tells. Every other value is an object of its own where it stands. -/
def sameObject (v w : Value) (shared : Bool := false) : Bool :=
  match v, w with
  | .null, .null => true
  | .bool a, .bool b => a = b
  | .int a, .int b => a = b && (shared || (-5 ≤ a && a ≤ 256))
  | .float a, .float b => a = b && shared
  | .text a, .text b => a = b && (shared || (a.length ≤ 1 && a.toList.all (·.toNat < 0x100)))
  | .bytes a, .bytes b => a = b && (shared || a.length ≤ 1)
  | .tuple [], .tuple [] => true
  | .keyword k a, .keyword l b => k = l && a = b
  | .type a i, .type b j => a = b && i = j
  | .schema a i, .schema b j => a = b && i = j
  | .code a, .code b => a = b
  | .handle a .., .handle b .. => a = b
  | _, _ => false

/-- The name of the kind of value. -/
def kindName : Value → String
  | .null => "NoneType"
  | .bool _ => "bool"
  | .int _ => "int"
  | .float _ => "float"
  | .text _ => "str"
  | .bytes _ => "bytes"
  | .list _ => "list"
  | .tuple _ => "tuple"
  | .set _ => "set"
  | .record _ => "dict"
  | .member _ => "Enum"
  | .keyword className _ => className
  | .fragment _ | .template .. | .receiver _ => "function"
  | .type .. => "type"
  | .schema .. => "EntitySchema"
  | .object _ => "Obj"
  | .model className _ => className
  | .group negated _ => if negated then "NotBrackets" else "Brackets"
  | .exception kind _ => kind
  | .code _ => "ErrorCode"
  | .secret _ => "SecretStr"
  | .handle _ kind _ => kind

/-- What is said not to have a member that it lacks. -/
def memberOwner : Value → String
  | .type name _ => "type object '" ++ name ++ "'"
  | v => "'" ++ v.kindName ++ "' object"

end Value

end SqlWeave
