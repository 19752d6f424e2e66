import SqlWeave.Failure
import SqlWeave.Number.Decimal
import SqlWeave.Number.Numeral
import SqlWeave.Text.Quoted

/-!
# JSON text

`write` puts a comma and a blank between items, a colon and a blank after keys, and escapes every
character outside printable ASCII. `read?` takes the grammar of JSON with the three words for
numbers that are not finite; of two equal keys the last wins. A whole number may not have too many
digits.
-/

namespace SqlWeave.Json

/-! ## Writing -/

/-- A code unit of sixteen bits as an escape. -/
def unitEscape (n : Nat) : String := "\\u" ++ Text.hex 4 n

/-- A character inside a string. -/
def escapeChar (c : Char) : String :=
  if c = '"' then "\\\""
  else if c = '\\' then "\\\\"
  else if c = '\n' then "\\n"
  else if c = '\r' then "\\r"
  else if c = '\t' then "\\t"
  else if c.toNat = 8 then "\\b"
  else if c.toNat = 12 then "\\f"
  else if 0x20 ≤ c.toNat && c.toNat < 0x7f then String.singleton c
  else if c.toNat < 0x10000 then unitEscape c.toNat
  else
    let n := c.toNat - 0x10000
    unitEscape (0xd800 + n / 0x400) ++ unitEscape (0xdc00 + n % 0x400)

/-- A string between double quotes. -/
def string (s : String) : String := "\"" ++ String.join (s.toList.map escapeChar) ++ "\""

mutual
/-- A value as JSON; `other` says what stands for a value that JSON does not know. -/
def writeWith (other : Value → String) : Value → String
  | .null => "null"
  | .bool b => if b then "true" else "false"
  | .int n => toString n
  | .float x => Decimal.displayWith "Infinity" "NaN" x
  | .text s => string s
  | .keyword _ s => string s
  | .list xs => "[" ++ writeItems other xs ++ "]"
  | .tuple xs => "[" ++ writeItems other xs ++ "]"
  | .record fs => "\x7b" ++ writeFields other fs ++ "\x7d"
  | v => string (other v)

def writeItems (other : Value → String) : List Value → String
  | [] => ""
  | [x] => writeWith other x
  | x :: y :: rest => writeWith other x ++ ", " ++ writeItems other (y :: rest)

def writeFields (other : Value → String) : List (String × Value) → String
  | [] => ""
  | [(k, v)] => string k ++ ": " ++ writeWith other v
  | (k, v) :: q :: rest => string k ++ ": " ++ writeWith other v ++ ", " ++ writeFields other (q :: rest)
end

mutual
/-- Is everything in a value known to JSON? -/
def knows : Value → Bool
  | .null | .bool _ | .int _ | .float _ | .text _ | .keyword .. => true
  | .list xs | .tuple xs => knowsAll xs
  | .record fs => knowsFields fs
  | _ => false

def knowsAll : List Value → Bool
  | [] => true
  | x :: xs => knows x && knowsAll xs

def knowsFields : List (String × Value) → Bool
  | [] => true
  | (_, v) :: rest => knows v && knowsFields rest
end

/-- A value as JSON; one that JSON does not know has none. -/
def write (v : Value) : Result String :=
  if knows v then .ok (writeWith Value.display v) else .error .wrongKind

/-- Numbers as a JSON array. -/
def writeNats (ns : List Nat) : String := "[" ++ String.intercalate ", " (ns.map toString) ++ "]"

/-! ## Reading -/

def isSpace (c : Char) : Bool := c = ' ' || c = '\t' || c = '\n' || c = '\r'

def skip (cs : List Char) : List Char := cs.dropWhile isSpace

def hexValue? (c : Char) : Option Nat :=
  if c.isDigit then some (c.toNat - 0x30)
  else if 'a' ≤ c && c ≤ 'f' then some (c.toNat - 0x57)
  else if 'A' ≤ c && c ≤ 'F' then some (c.toNat - 0x37)
  else none

/-- The value of four hexadecimal digits. -/
def unit? : List Char → Option (Nat × List Char)
  | a :: b :: c :: d :: rest => do
    let x ← hexValue? a
    let y ← hexValue? b
    let z ← hexValue? c
    let w ← hexValue? d
    some (((x * 16 + y) * 16 + z) * 16 + w, rest)
  | _ => none

/-- The rest of a string after its opening quote, with what was read so far, last first. -/
def stringTail : Nat → List Char → List Char → Option (String × List Char)
  | 0, _, _ => none
  | _ + 1, _, [] => none
  | fuel + 1, acc, c :: rest =>
    if c = '"' then some (String.ofList acc.reverse, rest)
    else if c = '\\' then
      match rest with
      | '"' :: r => stringTail fuel ('"' :: acc) r
      | '\\' :: r => stringTail fuel ('\\' :: acc) r
      | '/' :: r => stringTail fuel ('/' :: acc) r
      | 'b' :: r => stringTail fuel (Char.ofNat 8 :: acc) r
      | 'f' :: r => stringTail fuel (Char.ofNat 12 :: acc) r
      | 'n' :: r => stringTail fuel ('\n' :: acc) r
      | 'r' :: r => stringTail fuel ('\r' :: acc) r
      | 't' :: r => stringTail fuel ('\t' :: acc) r
      | 'u' :: r =>
        match unit? r with
        | none => none
        | some (high, r₁) =>
          if 0xd800 ≤ high && high < 0xdc00 then
            match r₁ with
            | '\\' :: 'u' :: r₂ =>
              match unit? r₂ with
              | some (low, r₃) =>
                if 0xdc00 ≤ low && low < 0xe000 then
                  stringTail fuel
                    (Char.ofNat (0x10000 + (high - 0xd800) * 0x400 + (low - 0xdc00)) :: acc) r₃
                else stringTail fuel (Char.ofNat 0xfffd :: acc) r₁
              | none => none
            | _ => stringTail fuel (Char.ofNat 0xfffd :: acc) r₁
          else stringTail fuel (Char.ofNat high :: acc) r₁
      | _ => none
    else if c.toNat < 0x20 then none
    else stringTail fuel (c :: acc) rest

/-- A number: its sign, whole part, fraction and exponent. -/
def number (cs : List Char) : Result (Value × List Char) :=
  let (negative, r) := match cs with
    | '-' :: r => (true, r)
    | r => (false, r)
  let whole := r.takeWhile Char.isDigit
  let whole := if whole.head? = some '0' then ['0'] else whole
  let r := r.drop whole.length
  let fraction := match r with
    | '.' :: f => f.takeWhile Char.isDigit
    | _ => []
  let r := if fraction.isEmpty then r else r.drop (fraction.length + 1)
  let mark : List Char := match r with
    | 'e' :: '+' :: _ | 'E' :: '+' :: _ | 'e' :: '-' :: _ | 'E' :: '-' :: _ => r.take 2
    | 'e' :: _ | 'E' :: _ => r.take 1
    | _ => []
  let power := (r.drop mark.length).takeWhile Char.isDigit
  let hasPower := !mark.isEmpty && !power.isEmpty
  let r := if hasPower then r.drop (mark.length + power.length) else r
  let exponent := if hasPower then (Numeral.digitRun Numeral.asciiDigit? power).map Prod.fst else some 0
  match Numeral.digitRun Numeral.asciiDigit? whole, Numeral.digitRun Numeral.asciiDigit? (whole ++ fraction),
      exponent with
  | some (w, count), some (d, _), some e =>
    if fraction.isEmpty && !hasPower then
      if Numeral.longest < count then .error (.badValue (Numeral.tooLongMessage count))
      else .ok (.int (Numeral.signed negative w), r)
    else
      let e : Int := if mark.contains '-' then -Int.ofNat e else Int.ofNat e
      .ok (.float (Double.ofDecimal negative d (e - Int.ofNat fraction.length)), r)
  | _, _, _ => .error .malformedJson

/-- A string after its opening quote, and the text after it. -/
def text (cs : List Char) : Result (String × List Char) :=
  match stringTail (cs.length + 1) [] cs with
  | some r => .ok r
  | none => .error .malformedJson

/-- How many arrays and objects may stand inside each other. -/
def deepest : Nat := 985

mutual
/-- One value at the head of the text, and the text after it; `depth` more arrays and objects may be
opened inside each other. -/
def value (depth : Nat) : Nat → List Char → Result (Value × List Char)
  | 0, _ => .error .malformedJson
  | _ + 1, [] => .error .malformedJson
  | fuel + 1, c :: rest =>
    if c = '"' then (text rest).map fun r => (.text r.1, r.2)
    else if c = '[' then
      if depth = 0 then .error .endless
      else match skip rest with
      | ']' :: r => .ok (.list [], r)
      | r => (items (depth - 1) fuel r).map fun x => (.list x.1, x.2)
    else if c = '\x7b' then
      if depth = 0 then .error .endless
      else match skip rest with
      | '\x7d' :: r => .ok (.record [], r)
      | r => (fields (depth - 1) fuel r).map fun x => (.record (Assoc.ofPairs x.1), x.2)
    else
      match c :: rest with
      | 'n' :: 'u' :: 'l' :: 'l' :: r => .ok (.null, r)
      | 't' :: 'r' :: 'u' :: 'e' :: r => .ok (.bool true, r)
      | 'f' :: 'a' :: 'l' :: 's' :: 'e' :: r => .ok (.bool false, r)
      | 'N' :: 'a' :: 'N' :: r => .ok (.float Double.nan, r)
      | 'I' :: 'n' :: 'f' :: 'i' :: 'n' :: 'i' :: 't' :: 'y' :: r => .ok (.float (Double.infinity false), r)
      | '-' :: 'I' :: 'n' :: 'f' :: 'i' :: 'n' :: 'i' :: 't' :: 'y' :: r =>
        .ok (.float (Double.infinity true), r)
      | cs => number cs

/-- The items of an array after its bracket. -/
def items (depth : Nat) : Nat → List Char → Result (List Value × List Char)
  | 0, _ => .error .malformedJson
  | fuel + 1, cs => do
    let (v, r) ← value depth fuel (skip cs)
    match skip r with
    | ']' :: r => .ok ([v], r)
    | ',' :: r => (items depth fuel r).map fun x => (v :: x.1, x.2)
    | _ => .error .malformedJson

/-- The fields of an object after its brace. -/
def fields (depth : Nat) : Nat → List Char → Result (List (String × Value) × List Char)
  | 0, _ => .error .malformedJson
  | fuel + 1, cs =>
    match skip cs with
    | '"' :: r => do
      let (key, r) ← text r
      match skip r with
      | ':' :: r => do
        let (v, r) ← value depth fuel (skip r)
        match skip r with
        | '\x7d' :: r => .ok ([(key, v)], r)
        | ',' :: r => (fields depth fuel r).map fun x => ((key, v) :: x.1, x.2)
        | _ => .error .malformedJson
      | _ => .error .malformedJson
    | _ => .error .malformedJson
end

/-- The value that a whole text writes. -/
def read (s : String) : Result Value := do
  let cs := s.toList
  let (v, r) ← value deepest (2 * cs.length + 2) (skip cs)
  if (skip r).isEmpty then .ok v else .error .malformedJson

end SqlWeave.Json
