import SqlWeave.Failure
import SqlWeave.Number.Numeral

/-!
# Values as whole numbers

A count, a limit and an offset may come as a number of any kind, as text or as bytes. Numbers with a
fraction lose it.
-/

namespace SqlWeave.Number

/-- A text as a whole number; `shown` is how it is shown when it is none. -/
def ofText (s shown : String) : Result Int :=
  match Numeral.int s with
  | .number n => .ok n
  | .tooLong count => .error (.badValue (Numeral.tooLongMessage count))
  | .malformed => .error (.badValue ("invalid literal for int() with base 10: " ++ shown))

/-- The character of a byte. One outside of ASCII is no part of a number, and neither is an information
separator, which is a space in text only. -/
def asciiChar (b : UInt8) : Char :=
  if b < 0x80 && !(0x1c ≤ b && b ≤ 0x1f) then Char.ofNat b.toNat else '?'

/-- The whole number that a value is. -/
def whole (v : Value) : Result Int :=
  match v, v.int?, v.text? with
  | .float x, _, _ => match x.read, x.truncate? with
    | .infinite _, _ => .error (.overflow "cannot convert float infinity to integer")
    | _, some n => .ok n
    | _, none => .error (.badValue "cannot convert float NaN to integer")
  | .bytes b, _, _ => ofText (String.ofList (b.map asciiChar)) v.literal
  | _, some n, _ => .ok n
  | _, _, some s => ofText s v.literal
  | _, _, _ => .error .wrongKind

end SqlWeave.Number
