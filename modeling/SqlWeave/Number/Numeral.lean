import SqlWeave.Number.Double
import SqlWeave.Text.Blank
import SqlWeave.Text.Digit
import SqlWeave.Text.CaseMap

/-!
# Reading numbers from text

A numeral may stand between spaces, carry a sign and hold single underscores between its digits.
Paging values and counts take digits of every script. Settings fields take ASCII digits only; a
whole number there may have leading zeros, and a fraction that consists of zeros. A whole number has
at most `longest` digits.
-/

namespace SqlWeave.Numeral

/-- The largest count of digits that a whole number is read from. -/
def longest : Nat := 4300

/-- What is said of more digits than that. -/
def tooLongMessage (count : Nat) : String :=
  "Exceeds the limit (" ++ toString longest ++ " digits) for integer string conversion: value has " ++
    toString count ++ " digits; use sys.set_int_max_str_digits() to increase the limit"

/-- Digits with single underscores between them: their value, and how many there are. -/
def digitRun (digit? : Char → Option Nat) : List Char → Option (Nat × Nat)
  | [] => none
  | cs => go 0 0 true cs
where
  /-- `needDigit`: an underscore may not stand here. -/
  go (value count : Nat) (needDigit : Bool) : List Char → Option (Nat × Nat)
    | [] => if needDigit then none else some (value, count)
    | c :: rest =>
      if c = '_' then if needDigit then none else go value count true rest
      else match digit? c with
        | some d => go (value * 10 + d) (count + 1) false rest
        | none => none

/-- An ASCII digit's value. -/
def asciiDigit? (c : Char) : Option Nat := if c.isDigit then some (c.toNat - 0x30) else none

/-- Splits a sign off. -/
def splitSign : List Char → Bool × List Char
  | '-' :: rest => (true, rest)
  | '+' :: rest => (false, rest)
  | cs => (false, cs)

def signed (negative : Bool) (n : Nat) : Int := if negative then -Int.ofNat n else Int.ofNat n

/-- What reading a whole number from a text gives. -/
inductive Reading where
  | number (n : Int)
  /-- More digits than are read. -/
  | tooLong (digits : Nat)
  | malformed
  deriving DecidableEq, Inhabited

namespace Reading

/-- The number that was read, if there is one. -/
def toInt? : Reading → Option Int
  | .number n => some n
  | _ => none

end Reading

/-- A whole number with digits of any script. -/
def int (s : String) : Reading :=
  let (negative, cs) := splitSign (Text.trimBy Text.isSpace s.toList)
  match digitRun Text.digitValue? cs with
  | some (n, count) => if longest < count then .tooLong count else .number (signed negative n)
  | none => .malformed

/-! ## Numbers of settings fields -/

/-- A whole number without anything around it: a minus sign perhaps, and digits of which the first
is a zero only when it stands alone. -/
def plainInt (cs : List Char) : Reading :=
  let (negative, ds) := match cs with
    | '-' :: rest => (true, rest)
    | cs => (false, cs)
  if ds.isEmpty || !ds.all Char.isDigit || (ds.head? = some '0' && 1 < ds.length) then .malformed
  else match digitRun asciiDigit? ds with
    | some (n, count) => if longest < count then .tooLong count else .number (signed negative n)
    | none => .malformed

/-- Drops the zeros, and underscores between them, before the first other digit. Before a point one
character stays, and of zeros alone the last. A sign may follow the zeros. -/
def dropZeros : List Char → Option (List Char)
  | [] => none
  | '0' :: rest => go '0' rest
  | c :: rest => if c.isDigit || c = '-' then some (c :: rest) else none
where
  /-- The characters after `last`, which is dropped unless it has to stay. -/
  go (last : Char) : List Char → Option (List Char)
    | [] => some [last]
    | c :: rest =>
      if c = '0' || c = '_' then go c rest
      else if c = '.' then some (last :: c :: rest)
      else if c.isDigit || c = '-' then some (c :: rest)
      else none

/-- Drops a point and the zeros after it, when there is at least one. -/
def dropFraction (cs : List Char) : List Char :=
  match cs.dropWhile (· ≠ '.') with
  | '.' :: '0' :: zeros => if zeros.all (· = '0') then cs.takeWhile (· ≠ '.') else cs
  | _ => cs

/-- Do two underscores stand beside each other? -/
def hasDoubleUnderscore : List Char → Bool
  | '_' :: '_' :: _ => true
  | _ :: rest => hasDoubleUnderscore rest
  | [] => false

/-- Drops underscores, which have to stand alone between other characters. -/
def dropUnderscores (cs : List Char) : Option (List Char) :=
  if cs.head? = some '_' || cs.getLast? = some '_' || hasDoubleUnderscore cs then none
  else some (cs.filter (· ≠ '_'))

/-- What is left of a numeral without the spaces, the plus sign, the leading zeros, the zeros of a
fraction and the underscores. -/
def bare (cs : List Char) : Option (List Char) := do
  let cs ← match Text.trimBy Text.isSpace cs with
    | '+' :: '-' :: _ => none
    | '+' :: rest => some rest
    | cs => some cs
  dropUnderscores (dropFraction (← dropZeros cs))

/-- A whole number of a settings field. -/
def fieldInt (s : String) : Reading :=
  match plainInt s.toList with
  | .number n => .number n
  | _ => match bare s.toList with
    | some cs => plainInt cs
    | none => .malformed

/-- The value of digits that may be missing: the value and how many there are. -/
def digits? (cs : List Char) : Option (Nat × Nat) :=
  if cs.isEmpty then some (0, 0)
  else if cs.all Char.isDigit then digitRun asciiDigit? cs
  else none

/-- A number with an optional fraction and exponent, or one of the words for no finite number. -/
def plainDouble? (cs : List Char) : Option Double :=
  let (negative, cs) := splitSign cs
  let word := (String.ofList cs).toLower
  if word = "inf" || word = "infinity" then
    some (Double.infinity negative)
  else if word = "nan" then some Double.nan
  else
    let isMark := fun (c : Char) => c = 'e' || c = 'E'
    let mantissa := cs.takeWhile (!isMark ·)
    let exponent? : Option Int := match cs.dropWhile (!isMark ·) with
      | [] => some 0
      | _ :: e =>
        let (neg, ds) := splitSign e
        if ds.isEmpty then none else (digits? ds).map fun r => signed neg r.1
    let whole := mantissa.takeWhile (· ≠ '.')
    let fraction := (mantissa.dropWhile (· ≠ '.')).drop 1
    match exponent?, digits? whole, digits? fraction with
    | some e, some (w, n), some (f, k) =>
      if n + k = 0 then none
      else some (Double.ofDecimal negative (w * pow10 k + f) (e - Int.ofNat k))
    | _, _, _ => none

/-- A number of a settings field: between spaces, or with underscores. -/
def double? (s : String) : Option Double :=
  match plainDouble? (Text.trimBy Text.isSpace s.toList) with
  | some x => some x
  | none => (dropUnderscores s.toList).bind plainDouble?

end SqlWeave.Numeral
