import SqlWeave.Value
import SqlWeave.Number.Decimal
import SqlWeave.Text.Quoted

/-!
# Values as text

`literal` is how a value is written inside a collection, `display` how it is written by itself: a
text stands without quotes there, a word of an enumeration under its label.
-/

namespace SqlWeave.Value

/-- What is shown of a text that is not to be shown. -/
def masked (secret : String) : String := if secret = "" then "" else "**********"

mutual
/-- A value as it is written inside a collection. -/
def literal : Value → String
  | .null => "None"
  | .bool b => if b then "True" else "False"
  | .int n => toString n
  | .float x => Decimal.display x
  | .text s => Text.quoted s
  | .bytes b => Text.quotedBytes b
  | .list xs => "[" ++ literals xs ++ "]"
  | .tuple [x] => "(" ++ literal x ++ ",)"
  | .tuple xs => "(" ++ literals xs ++ ")"
  | .set [] => "set()"
  | .set xs => "\x7b" ++ literals xs ++ "\x7d"
  | .record fs => "\x7b" ++ fieldLiterals fs ++ "\x7d"
  | .member v => literal v
  | .keyword className w => "<" ++ className ++ "." ++ labelOf w ++ ": " ++ Text.quoted w ++ ">"
  | .fragment _ | .template .. | .receiver _ => "<function>"
  | .type name _ => "<class '" ++ name ++ "'>"
  | .schema name _ => "EntitySchema(name=" ++ Text.quoted name ++ ")"
  | .object _ => "<object>"
  | .model className fs => className ++ "(" ++ partLiterals ", " fs ++ ")"
  | .group negated _ => if negated then "<NotBrackets>" else "<Brackets>"
  | .exception kind message => kind ++ "(" ++ Text.quoted message ++ ")"
  | .code c => "<ErrorCode." ++ c.label ++ ": " ++ Text.quoted c.word ++ ">"
  | .secret s => "SecretStr(" ++ Text.quoted (masked s) ++ ")"
  | .handle _ _ (.text s) => s
  | .handle _ _ shown => literal shown

def literals : List Value → String
  | [] => ""
  | [x] => literal x
  | x :: y :: rest => literal x ++ ", " ++ literals (y :: rest)

def fieldLiterals : List (String × Value) → String
  | [] => ""
  | [(k, v)] => Text.quoted k ++ ": " ++ literal v
  | (k, v) :: q :: rest => Text.quoted k ++ ": " ++ literal v ++ ", " ++ fieldLiterals (q :: rest)

/-- The fields of a model, with a text between them. -/
def partLiterals (between : String) : List (String × Value) → String
  | [] => ""
  | [(k, v)] => k ++ "=" ++ literal v
  | (k, v) :: q :: rest => k ++ "=" ++ literal v ++ between ++ partLiterals between (q :: rest)
end

/-- A value as it is written by itself. -/
def display : Value → String
  | .text s | .handle _ _ (.text s) => s
  | .keyword className w => className ++ "." ++ labelOf w
  | .code c => "ErrorCode." ++ c.label
  | .exception _ message => message
  | .model _ fs | .handle _ _ (.model _ fs) => partLiterals " " fs
  | .secret s => masked s
  | v => literal v

/-- What a caller calls a target that stands for an entity: the name that it has, or else the text
that it is displayed by. -/
def targetName (v : Value) : Value :=
  match v.attribute? "__name__" with
  | some name => name.orElse (.text v.display)
  | none => .text v.display

end SqlWeave.Value
