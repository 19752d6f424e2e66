import SqlWeave.Failure

/-!
# Message templates

A message may have places for its arguments: a percent sign, perhaps a name in parentheses, flags, a
width and a precision, then a letter that says how the argument is written. An asterisk takes the
width or the precision from an argument of its own. Two percent signs stand for one. A template is cut
into pieces first; a piece that is broken fails only when it is reached.
-/

namespace SqlWeave

namespace Template

/-- What stands between the percent sign and the letter. -/
structure Shape where
  /-- The name of the argument. -/
  key : Option String := none
  left : Bool := false
  plus : Bool := false
  space : Bool := false
  alternate : Bool := false
  zero : Bool := false
  width : Nat := 0
  /-- Is the width an argument? -/
  widthAsked : Bool := false
  precision : Option Nat := none
  /-- Is the precision an argument? -/
  precisionAsked : Bool := false
  deriving Inhabited, DecidableEq

inductive Piece where
  | char (c : Char)
  /-- A place with its letter, which stands at `index` in the template. -/
  | place (shape : Shape) (letter : Char) (index : Nat)
  /-- A name without its closing parenthesis. -/
  | openKey
  /-- A place that ends or goes on in a way that is none. -/
  | broken (shape : Shape) (message : String)
  deriving Inhabited, DecidableEq

/-! ## Cutting a template -/

/-- How far a place was read. -/
inductive Progress where
  | text
  /-- Inside the name, below so many open parentheses, with the characters so far, last first. -/
  | key (depth : Nat) (taken : List Char)
  | start
  | flags (shape : Shape)
  | width (shape : Shape)
  /-- After the width. -/
  | sized (shape : Shape)
  /-- At the first character of the precision. -/
  | point (shape : Shape)
  | precision (shape : Shape)
  /-- After the precision. -/
  | measured (shape : Shape)
  | size (shape : Shape)

/-- A shape with one more flag. -/
def Shape.flag? (s : Shape) (c : Char) : Option Shape :=
  match c with
  | '-' => some { s with left := true }
  | '+' => some { s with plus := true }
  | ' ' => some { s with space := true }
  | '#' => some { s with alternate := true }
  | '0' => some { s with zero := true }
  | _ => none

/-- The digit that a character is. -/
def digit? (c : Char) : Option Nat := if c.isDigit then some (c.toNat - 48) else none

/-- Letters about the size of a number, which say nothing here. -/
def isSize (c : Char) : Bool := c = 'h' || c = 'l' || c = 'L'

/-- The largest width. -/
def largestWidth : Nat := pow2 63 - 1

/-- The largest precision. -/
def largestPrecision : Nat := pow2 31 - 1

/-- Reads one character after the width and the precision. -/
def afterPrecision (s : Shape) (c : Char) (index : Nat) : Progress × List Piece :=
  if isSize c then (.size s, []) else (.text, [.place s c index])

/-- Reads one character after the width. -/
def afterWidth (s : Shape) (c : Char) (index : Nat) : Progress × List Piece :=
  if c = '.' then (.point { s with precision := some 0 }, []) else afterPrecision s c index

/-- Reads one character of the width. -/
def inWidth (s : Shape) (c : Char) (index : Nat) : Progress × List Piece :=
  match digit? c with
  | some d =>
    let width := 10 * s.width + d
    (.width { s with width }, if largestWidth < width then [.broken s "width too big"] else [])
  | none => afterWidth s c index

/-- Reads one character of the precision. -/
def inPrecision (s : Shape) (c : Char) (index : Nat) : Progress × List Piece :=
  match digit? c with
  | some d =>
    let precision := 10 * s.precision.getD 0 + d
    (.precision { s with precision := some precision },
      if largestPrecision < precision then [.broken s "precision too big"] else [])
  | none => afterPrecision s c index

/-- Reads one character of the flags. -/
def inFlags (s : Shape) (c : Char) (index : Nat) : Progress × List Piece :=
  match s.flag? c with
  | some s => (.flags s, [])
  | none => if c = '*' then (.sized { s with widthAsked := true }, []) else inWidth s c index

/-- Reads one character. -/
def read (p : Progress) (c : Char) (index : Nat) : Progress × List Piece :=
  match p with
  | .text => if c = '%' then (.start, []) else (.text, [.char c])
  | .start =>
    if c = '%' then (.text, [.char '%'])
    else if c = '(' then (.key 0 [], [])
    else inFlags {} c index
  | .key depth taken =>
    if c = '(' then (.key (depth + 1) (c :: taken), [])
    else if c = ')' then match depth with
      | 0 => (.flags { key := some (String.ofList taken.reverse) }, [])
      | depth + 1 => (.key depth (c :: taken), [])
    else (.key depth (c :: taken), [])
  | .flags s => inFlags s c index
  | .width s => inWidth s c index
  | .sized s => afterWidth s c index
  | .point s => if c = '*' then (.measured { s with precisionAsked := true }, []) else inPrecision s c index
  | .precision s => inPrecision s c index
  | .measured s => afterPrecision s c index
  | .size s => (.text, [.place s c index])

/-- What a place that is not finished makes at the end. -/
def Progress.atEnd : Progress → List Piece
  | .text => []
  | .key .. => [.openKey]
  | .start => [.broken {} "incomplete format"]
  | .flags s | .width s | .sized s | .point s | .precision s | .measured s | .size s =>
    [.broken s "incomplete format"]

/-- The pieces of the characters from `index` on. -/
def piecesFrom (p : Progress) (index : Nat) : List Char → List Piece
  | [] => p.atEnd
  | c :: cs =>
    let (next, done) := read p c index
    done ++ piecesFrom next (index + 1) cs

/-- The pieces of a template. -/
def pieces (template : String) : List Piece := piecesFrom .text 0 template.toList

/-! ## Writing an argument -/

/-- Fills a text up to a width with blanks. -/
def pad (s : Shape) (text : String) : String :=
  let blanks := String.ofList (List.replicate (s.width - text.length) ' ')
  if s.left then text ++ blanks else blanks ++ text

/-- A text, cut to the precision. -/
def text (s : Shape) (t : String) : String :=
  pad s (match s.precision with
    | some n => String.ofList (t.toList.take n)
    | none => t)

/-- A number: its sign, what stands before the digits, the digits. -/
def number (s : Shape) (negative : Bool) (lead digits : String) : String :=
  let sign := if negative then "-" else if s.plus then "+" else if s.space then " " else ""
  let head := sign ++ lead
  if s.zero && !s.left then
    head ++ String.ofList (List.replicate (s.width - head.length - digits.length) '0') ++ digits
  else pad s (head ++ digits)

/-- Digits, at least as many as the precision asks for. -/
def atLeast (s : Shape) (digits : String) : String :=
  String.ofList (List.replicate (s.precision.getD 0 - digits.length) '0') ++ digits

/-- A whole number in a base. -/
def whole (s : Shape) (n : Int) (base : Nat) (lead : String) : String :=
  number s (n < 0) (if s.alternate then lead else "")
    (atLeast s (String.ofList (Nat.toDigits base n.natAbs)))

/-- The whole number that a value is cut to. -/
def cut (v : Value) : Result Int :=
  match v with
  | .float x => match x.truncate?, x.read with
    | some n, _ => .ok n
    | none, .nan => .error (.badValue "cannot convert float NaN to integer")
    | none, _ => .error (.fault "OverflowError" "cannot convert float infinity to integer")
  | v => match v.int? with
    | some n => .ok n
    | none => .error .wrongKind

/-- The whole number that a value is. -/
def exact (v : Value) : Result Int :=
  match v.int? with
  | some n => .ok n
  | none => .error .wrongKind

/-- The binary number that a value counts as. -/
def binary (v : Value) : Result Double :=
  match v with
  | .float x => .ok x
  | v => do
    let n ← exact v
    match Double.ofInt? n with
    | some x => return x
    | none => throw (.fault "OverflowError" "int too large to convert to float")

/-- The one character that a value is, or is the number of. -/
def single (v : Value) : Result String :=
  match v with
  | .text t => if t.length = 1 then .ok t else .error .wrongKind
  | v => do
    let n ← exact v
    if 0 ≤ n && n < 0x110000 then return String.singleton (Char.ofNat n.toNat)
    else throw (.fault "OverflowError" "%c arg not in range(0x110000)")

/-- A character of a display that is written with ASCII alone. -/
def asciiChar (c : Char) : String :=
  let n := c.toNat
  if n < 0x80 then String.singleton c
  else if n < 0x100 then "\\x" ++ Text.hex 2 n
  else if n < 0x10000 then "\\u" ++ Text.hex 4 n
  else "\\U" ++ Text.hex 8 n

/-- The form of numbers that a letter names, in lower case. -/
def form? (letter : Char) : Option Decimal.Form :=
  match letter with
  | 'e' => some .exponential
  | 'f' => some .fixed
  | 'g' => some .general
  | _ => none

/-- A binary number in a form, with six digits unless the precision says how many. -/
def measured (s : Shape) (form : Decimal.Form) (x : Double) : String :=
  number s (x.isNegative && x.read != .nan) ""
    (Decimal.writeAs form (s.precision.getD 6) s.alternate { bits := x.bits &&& 0x7fffffffffffffff })

/-- Writes a value as a letter says. -/
def write (s : Shape) (letter : Char) (index : Nat) (v : Value) : Result String :=
  match letter with
  | 's' => .ok (text s v.display)
  | 'r' => .ok (text s v.literal)
  | 'a' => .ok (text s (String.join (v.literal.toList.map asciiChar)))
  | 'd' | 'i' | 'u' => (cut v).map fun n => whole s n 10 ""
  | 'o' => (exact v).map fun n => whole s n 8 "0o"
  | 'x' => (exact v).map fun n => whole s n 16 "0x"
  | 'X' => (exact v).map fun n => (whole s n 16 "0x").toUpper
  | 'c' => (single v).map (pad s)
  | c => match form? c.toLower with
    | some form => (binary v).map fun x =>
      let written := measured s form x
      if c.isUpper then written.toUpper else written
    | none =>
      let shown := if 31 < c.toNat && c.toNat < 127 then c else '?'
      .error (.badValue ("unsupported format character '" ++ String.singleton shown ++ "' (0x" ++
        String.ofList (Nat.toDigits 16 c.toNat) ++ ") at index " ++ toString index))

/-! ## Filling the places -/

/-- The next argument and those after it. -/
def next : List Value → Result (Value × List Value)
  | [] => .error .wrongKind
  | v :: left => .ok (v, left)

/-- The next argument, which has to be a whole number of at most a size. -/
def nextWhole (largest : Nat) (kind : String) (left : List Value) : Result (Int × List Value) := do
  let (v, left) ← next left
  let n ← exact v
  if n.natAbs ≤ largest then return (n, left)
  else throw (.fault "OverflowError" ("Python int too large to convert to C " ++ kind))

/-- The arguments from which a place takes its own: the one that its name selects, or those that
remain. -/
def selected (s : Shape) (fields : Option Record) (left : List Value) : Result (List Value) :=
  match s.key, fields with
  | none, _ => .ok left
  | some _, none => .error .wrongKind
  | some k, some r => match Assoc.get? r k with
    | some v => .ok [v]
    | none => .error .missingKey

/-- Takes the width and the precision from the arguments where the shape asks for that. A negative
width stands for one with the flag that moves the text to the left. -/
def settled (s : Shape) (left : List Value) : Result (Shape × List Value) := do
  let (s, left) ← if s.widthAsked then do
      let (n, left) ← nextWhole largestWidth "ssize_t" left
      pure ({ s with width := n.natAbs, left := s.left || n < 0 }, left)
    else pure (s, left)
  if s.precisionAsked then do
    let (n, left) ← nextWhole largestPrecision "int" left
    return ({ s with precision := some n.toNat }, left)
  else return (s, left)

/-- Writes pieces; `fields` are the arguments with names and `left` those without that remain. -/
def fill (fields : Option Record) (left : List Value) : List Piece → Result String
  | [] => if fields.isNone && !left.isEmpty then .error .wrongKind else .ok ""
  | .char c :: rest => do return String.singleton c ++ (← fill fields left rest)
  | .openKey :: _ => .error (if fields.isNone then .wrongKind else .badValue "incomplete format key")
  | .broken shape message :: _ => do
    let _ ← settled shape (← selected shape fields left)
    throw (.badValue message)
  | .place shape letter index :: rest => do
    let (shape, left) ← settled shape (← selected shape fields left)
    let (v, left) ← next left
    let written ← write shape letter index v
    return written ++ (← fill fields left rest)

/-- Writes a template with arguments. A single record that is not empty gives them names. -/
def render (template : String) (args : List Value) : Result String :=
  match args with
  | [.record r] =>
    if r.isEmpty then fill none args (pieces template)
    else fill (some r) [.record r] (pieces template)
  | args => fill none args (pieces template)

end Template

end SqlWeave
