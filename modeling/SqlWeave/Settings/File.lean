import SqlWeave.Assoc
import SqlWeave.Text.Blank

/-!
# The settings file

A file of bindings `KEY=value`, one a line, perhaps after `export`. A value may stand between quotes
and then run over several lines; an unquoted one ends before a blank and a number sign. Comments and
blank lines do not count, and a line that is no binding is dropped. In a value, a name in braces after
a dollar sign stands for the value of a binding above or of an environment variable.

`bindings` reads a text; `defined` replaces the names and lets the last binding of a key win.
-/

namespace SqlWeave.SettingsFile

/-- White space inside of a line. -/
def isInlineBlank (c : Char) : Bool := Text.isBlank c && c ≠ '\n' && c ≠ '\r'

/-- The text with every line break written in one way. -/
def unifyBreaks : List Char → List Char
  | '\r' :: '\n' :: rest => '\n' :: unifyBreaks rest
  | '\r' :: rest => '\n' :: unifyBreaks rest
  | c :: rest => c :: unifyBreaks rest
  | [] => []

/-- A step of the reader: what it reads and the text after it, or the text where it gave up. -/
abbrev Scan (α : Type) := Except (List Char) (α × List Char)

/-- What follows the word `export` and blanks after it. -/
def afterExport (cs : List Char) : List Char :=
  match cs with
  | 'e' :: 'x' :: 'p' :: 'o' :: 'r' :: 't' :: c :: rest =>
    if isInlineBlank c then rest.dropWhile isInlineBlank else cs
  | _ => cs

/-- A key, between single quotes or not; a comment has none. -/
def key (cs : List Char) : Scan (Option String) :=
  let run (keep : Char → Bool) (cs : List Char) : String × List Char :=
    (String.ofList (cs.takeWhile keep), cs.dropWhile keep)
  match cs with
  | '#' :: _ => .ok (none, cs)
  | '\'' :: rest => match run (· ≠ '\'') rest with
    | (k, '\'' :: more) => if k = "" then .error cs else .ok (some k, more)
    | _ => .error cs
  | _ =>
    let (k, more) := run (fun c => c ≠ '=' && c ≠ '#' && !Text.isBlank c) cs
    if k = "" then .error cs else .ok (some k, more)

/-- The places of the quotes in a text, counted from `i`, with whether a backslash stands before. -/
def quotePlaces (quote : Char) (escaped : Bool) (i : Nat) : List Char → List (Nat × Bool)
  | [] => []
  | c :: rest =>
    let more := quotePlaces quote (c = '\\') (i + 1) rest
    if c = quote then (i, escaped) :: more else more

/-- Where a quoted text ends: at the first quote without a backslash before it, or else at the last
quote. -/
def closingPlace? (quote : Char) (cs : List Char) : Option Nat :=
  let places := quotePlaces quote false 0 cs
  match places.find? fun p => !p.2 with
  | some p => some p.1
  | none => places.getLast?.map Prod.fst

/-- The character that a letter after a backslash stands for. -/
def escapeOf? (quote c : Char) : Option Char :=
  match c with
  | '\\' => some '\\'
  | '\'' => some '\''
  | _ =>
    if quote = '\'' then none
    else match c with
      | '"' => some '"'
      | 'a' => some '\x07'
      | 'b' => some '\x08'
      | 'f' => some '\x0c'
      | 'n' => some '\n'
      | 'r' => some '\r'
      | 't' => some '\t'
      | 'v' => some '\x0b'
      | _ => none

/-- Replaces the escapes of a quoted text. -/
def unescape (quote : Char) : List Char → List Char
  | '\\' :: c :: rest => match escapeOf? quote c with
    | some e => e :: unescape quote rest
    | none => '\\' :: unescape quote (c :: rest)
  | c :: rest => c :: unescape quote rest
  | [] => []

/-- An unquoted value without the comment behind it. -/
def uncommented : List Char → List Char
  | [] => []
  | c :: rest =>
    if Text.isBlank c && (rest.dropWhile Text.isBlank).head? = some '#' then []
    else c :: uncommented rest

/-- A text without the blanks around it. -/
def trimmed (cs : List Char) : List Char :=
  ((cs.dropWhile Text.isBlank).reverse.dropWhile Text.isBlank).reverse

/-- A value after the equals sign. -/
def value (cs : List Char) : Scan String :=
  let begun := cs.dropWhile isInlineBlank
  let quoted (quote : Char) (rest : List Char) : Scan String :=
    match closingPlace? quote rest with
    | some n => .ok (String.ofList (unescape quote (rest.take n)), rest.drop (n + 1))
    | none => .error begun
  match begun with
  | '\'' :: rest => quoted '\'' rest
  | '"' :: rest => quoted '"' rest
  | _ =>
    let line := cs.takeWhile (· ≠ '\n')
    .ok (String.ofList (trimmed (uncommented line)), cs.drop line.length)

/-- What follows a comment, if there is one. -/
def afterComment (cs : List Char) : List Char :=
  match cs.dropWhile isInlineBlank with
  | '#' :: rest => rest.dropWhile (· ≠ '\n')
  | _ => cs

/-- The end of a line. -/
def lineEnd (cs : List Char) : Except (List Char) (List Char) :=
  match cs.dropWhile isInlineBlank with
  | [] => .ok []
  | '\n' :: rest => .ok rest
  | _ => .error cs

/-- The binding at the head of a text; a key may stand without a value. -/
def binding (cs : List Char) : Except (List Char) (Option (String × Option String) × List Char) := do
  let cs := cs.dropWhile Text.isBlank
  if cs.isEmpty then return (none, [])
  let (name, cs) ← key (afterExport cs)
  let (given, cs) ← match cs.dropWhile isInlineBlank with
    | '=' :: rest => do
      let (v, rest) ← value rest
      pure (some v, rest)
    | rest => pure (none, rest)
  return (name.map fun n => (n, given), ← lineEnd (afterComment cs))

/-- The bindings of a text; `fuel` bounds how many there are. -/
def bindingsFrom : (fuel : Nat) → List Char → List (String × Option String)
  | _, [] => []
  | 0, _ => []
  | fuel + 1, cs => match binding cs with
    | .ok (some b, rest) => b :: bindingsFrom fuel rest
    | .ok (none, rest) => bindingsFrom fuel rest
    | .error rest => bindingsFrom fuel ((rest.dropWhile (· ≠ '\n')).drop 1)

/-- The bindings of a text. A binding takes at least one character. -/
def bindings (content : String) : List (String × Option String) :=
  bindingsFrom content.length (unifyBreaks content.toList)

/-! ## Names in braces -/

/-- The name at the head of a text, up to a closing brace; after a colon and a hyphen it may have a
value of its own. -/
def reference? (cs : List Char) : Option (String × String × List Char) :=
  let name := cs.takeWhile fun c => c ≠ '\x7d' && c ≠ ':'
  match cs.drop name.length with
  | '\x7d' :: rest => some (String.ofList name, "", rest)
  | ':' :: '-' :: rest => match rest.dropWhile (· ≠ '\x7d') with
    | '\x7d' :: more => some (String.ofList name, String.ofList (rest.takeWhile (· ≠ '\x7d')), more)
    | _ => none
  | _ => none

/-- Puts the values of names in; `skip` characters belong to the reference just replaced. -/
def expand (lookUp : String → Option String) : (skip : Nat) → List Char → List Char
  | _, [] => []
  | skip + 1, _ :: rest => expand lookUp skip rest
  | 0, '$' :: '\x7b' :: rest => match reference? rest with
    | some (name, fallback, more) =>
      ((lookUp name).getD fallback).toList ++ expand lookUp (rest.length - more.length + 1) ('\x7b' :: rest)
    | none => '$' :: expand lookUp 0 ('\x7b' :: rest)
  | 0, c :: rest => c :: expand lookUp 0 rest

/-- The value of a name: of the bindings so far, which may be empty, or of the environment. -/
def lookUp (known : Assoc (Option String)) (environment : Assoc String) (name : String) : Option String :=
  match known.get? name with
  | some v => some (v.getD "")
  | none => environment.get? name

/-- The variables that a file defines, in an environment; the last binding of a key wins. -/
def defined (environment : Assoc String) (content : String) : Assoc (Option String) :=
  (bindings content).foldl (fun known b => known.put b.1 (b.2.map fun v =>
    String.ofList (expand (lookUp known environment) 0 v.toList))) []

end SqlWeave.SettingsFile
