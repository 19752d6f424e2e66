import SqlWeave.Failure
import SqlWeave.Number.Numeral
import SqlWeave.Text.CaseMap
import SqlWeave.Text.Encoding

/-!
# Fields

A field takes a value of one kind and converts what stands for it: a whole number may come as text,
a truth value as a word. A `Reader` gives the converted value or the name of the rule that is
broken. `Gather` reads the fields of one object and keeps every rule broken on the way, so that all
of them are reported together.
-/

namespace SqlWeave

namespace Field

/-- Converts a value, or names the rule it breaks. -/
abbrev Reader (α : Type) := Value → Except String α

/-- Every value, as it is. -/
def any : Reader Value := .ok

/-- The text that a value stands for: a member of an enumeration stands for its value. -/
def textOf? : Value → Option String
  | .text s | .keyword _ s => some s
  | .bytes b => Text.ofUtf8? b
  | .member v => some v.display
  | .code c => some c.word
  | _ => none

def text : Reader String
  | .bytes b => match Text.ofUtf8? b with
    | some s => .ok s
    | none => .error "string_unicode"
  | v => match textOf? v with
    | some s => .ok s
    | none => .error "string_type"

/-- A text that is not to be shown; nor is it told why there is none. -/
def secret : Reader String := fun v =>
  match v, text v with
  | .secret s, _ | _, .ok s => .ok s
  | _, .error _ => .error "string_type"

/-- Absence is allowed. -/
def optional {α : Type} (r : Reader α) : Reader (Option α)
  | .null => .ok none
  | v => (r v).map some

/-- The numbers of 64 bits. -/
def isWord64 (n : Int) : Bool := -Int.ofNat (pow2 63) ≤ n && n < Int.ofNat (pow2 63)

/-- A text as a whole number. -/
def parsedInt (s : String) : Except String Int :=
  match Numeral.fieldInt s with
  | .number n => .ok n
  | .tooLong _ => .error "int_parsing_size"
  | .malformed => .error "int_parsing"

/-- A whole number: as a number, a truth value, or text. -/
def int : Reader Int
  | .int n | .member (.int n) => .ok n
  | .bool b => .ok (if b then 1 else 0)
  | .float x => match x.truncate?, x.toInt? with
    | none, _ => .error "finite_number"
    | some _, none => .error "int_from_float"
    | some _, some n => if isWord64 n then .ok n else .error "int_parsing_size"
  | .text s | .keyword _ s => parsedInt s
  | .bytes b => match Text.ofUtf8? b with
    | some s => parsedInt s
    | none => .error "int_parsing"
  | _ => .error "int_type"

/-- A whole number between two bounds. -/
def intBetween (low high : Int) : Reader Int := fun v => do
  let n ← int v
  if high < n then .error "less_than_equal"
  else if n < low then .error "greater_than_equal"
  else .ok n

/-- A text as a number. -/
def parsedDouble (s : String) : Except String Double :=
  match Numeral.double? s with
  | some x => .ok x
  | none => .error "float_parsing"

/-- A number. -/
def double : Reader Double
  | .float x | .member (.float x) => .ok x
  | .int n | .member (.int n) => match Double.ofInt? n with
    | some x => .ok x
    | none => .error "float_type"
  | .bool b => .ok (Double.ofInt (if b then 1 else 0))
  | .text s | .keyword _ s => parsedDouble s
  | .bytes b => match Text.ofUtf8? b with
    | some s => parsedDouble s
    | none => .error "float_parsing"
  | _ => .error "float_type"

/-- A number above zero. -/
def positive : Reader Double := fun v => do
  let x ← double v
  if (Double.ofInt 0).lt x then .ok x else .error "greater_than"

/-- The words that mean yes. -/
def yesWords : List String := ["true", "t", "yes", "y", "on", "1"]

/-- The words that mean no. -/
def noWords : List String := ["false", "f", "no", "n", "off", "0"]

/-- A word as a truth value, in any case. -/
def parsedFlag (s : String) : Except String Bool :=
  let w := s.toLower
  if yesWords.contains w then .ok true
  else if noWords.contains w then .ok false
  else .error "bool_parsing"

/-- A number of 64 bits as a truth value. -/
def flagOfInt (n : Int) : Except String Bool :=
  if n = 1 then .ok true
  else if n = 0 then .ok false
  else .error (if isWord64 n then "bool_parsing" else "bool_type")

/-- A truth value: itself, one or zero, or a word in any case. -/
def flag : Reader Bool
  | .bool b => .ok b
  | .int n => flagOfInt n
  | .float x => match x.toInt? with
    | some n => flagOfInt n
    | none => .error "bool_type"
  | .text s | .keyword _ s => parsedFlag s
  | .bytes b => match Text.ofUtf8? b with
    | some s => parsedFlag s
    | none => .error "bool_parsing"
  | _ => .error "bool_type"

/-- One of a list of words, each with what it means. -/
def wordOf {α : Type} (meaning? : String → Option α) : Reader α := fun v =>
  match (textOf? v).bind meaning? with
  | some a => .ok a
  | none => .error "enum"

/-- Bytes, or a text as its UTF-8 bytes. -/
def bytes : Reader (List UInt8)
  | .bytes b => .ok b
  | v => match v.text? with
    | some s => .ok s.toUTF8.toList
    | none => .error "bytes_type"

/-- A record. -/
def record : Reader Record
  | .record r => .ok r
  | _ => .error "dict_type"

/-- Something that can be called. -/
def callable : Reader Value := fun v => if v.isCallable then .ok v else .error "callable_type"

/-- An assignment to what is no attribute. -/
def noAttribute (name : String) : Failure := .invalid [⟨[name], "no_such_attribute"⟩]

/-- Reads fields one after the other and keeps the rules they break. -/
abbrev Gather := StateM (List Issue)

/-- Reads one field of an object; a field that is not given takes its default, or is missing. -/
def gather {α : Type} [Inhabited α] (given : Record) (name : String) (fallback : Option α)
    (r : Reader α) : Gather α := do
  match given.get? name, fallback with
  | some v, _ => match r v with
    | .ok a => pure a
    | .error rule =>
      modify (· ++ [⟨[name], rule⟩])
      pure default
  | none, some a => pure a
  | none, none =>
    modify (· ++ [⟨[name], "missing"⟩])
    pure default

/-- Reads the items from number `i` on of the field `name`. -/
def gatherFrom {α : Type} (name : String) (r : Reader α) : Nat → List Value → Gather (List α)
  | _, [] => pure []
  | i, v :: rest => do
    let here ← match r v with
      | .ok a => pure [a]
      | .error rule => do
        modify (· ++ [⟨[name, toString i], rule⟩])
        pure []
    let more ← gatherFrom name r (i + 1) rest
    pure (here ++ more)

/-- Reads a field that holds a list; a field that is not given holds none. -/
def gatherEach {α : Type} (given : Record) (name : String) (r : Reader α) : Gather (List α) :=
  match given.get? name with
  | none => pure []
  | some (.list xs) | some (.tuple xs) | some (.set xs) => gatherFrom name r 0 xs
  | some (.model _ fs) => gatherFrom name r 0 (fs.map fun p => .tuple [.text p.1, p.2])
  | some _ => do
    modify (· ++ [⟨[name], "list_type"⟩])
    pure []

/-- The object, when no field broke a rule. -/
def Gather.run {α : Type} (g : Gather α) : Result α :=
  match StateT.run g [] with
  | (a, []) => .ok a
  | (_, issues) => .error (.invalid issues)

end Field

end SqlWeave
