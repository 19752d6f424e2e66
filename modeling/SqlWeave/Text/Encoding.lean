/-!
# Bytes as text

Bytes are read as text in one of the encodings of Unicode. `ofBytes?` finds the encoding by itself: by
the mark at the head, or by where the zeros of the first characters stand; without either it is
UTF-8. Halves of a pair that stand alone are read as the replacement character.
-/

namespace SqlWeave.Text

/-- Bytes of strict UTF-8 as text. -/
def ofUtf8? (data : List UInt8) : Option String :=
  let raw := ByteArray.mk data.toArray
  if h : raw.IsValidUTF8 then some (String.ofByteArray raw h) else none

/-- The replacement character in UTF-8. -/
def replacement : List UInt8 := [0xef, 0xbf, 0xbd]

/-- UTF-8 in which single halves of pairs are replaced. -/
def withoutHalves : List UInt8 → List UInt8
  | 0xed :: a :: b :: rest =>
    if 0xa0 ≤ a && a ≤ 0xbf && 0x80 ≤ b && b ≤ 0xbf then replacement ++ withoutHalves rest
    else 0xed :: withoutHalves (a :: b :: rest)
  | b :: rest => b :: withoutHalves rest
  | [] => []

/-- The numbers that pairs of bytes make; the low byte comes first when `little`. -/
def pairs? (little : Bool) : List UInt8 → Option (List Nat)
  | [] => some []
  | [_] => none
  | a :: b :: rest =>
    (pairs? little rest).map
      ((if little then b.toNat * 256 + a.toNat else a.toNat * 256 + b.toNat) :: ·)

/-- The characters of UTF-16 units. -/
def ofUnits : List Nat → List Char
  | [] => []
  | [u] => [if 0xd800 ≤ u && u < 0xe000 then '\ufffd' else Char.ofNat u]
  | u :: v :: rest =>
    if 0xd800 ≤ u && u < 0xdc00 && 0xdc00 ≤ v && v < 0xe000 then
      Char.ofNat (0x10000 + (u - 0xd800) * 0x400 + (v - 0xdc00)) :: ofUnits rest
    else if 0xd800 ≤ u && u < 0xe000 then '\ufffd' :: ofUnits (v :: rest)
    else Char.ofNat u :: ofUnits (v :: rest)

/-- UTF-16 as text. -/
def ofUtf16? (little : Bool) (data : List UInt8) : Option String :=
  (pairs? little data).map fun units => String.ofList (ofUnits units)

/-- The characters that pairs of UTF-16-like units make when each pair is one number. -/
def ofQuads? (little : Bool) : List Nat → Option (List Char)
  | [] => some []
  | [_] => none
  | a :: b :: rest =>
    let n := if little then b * 0x10000 + a else a * 0x10000 + b
    if 0x10ffff < n then none
    else (ofQuads? little rest).map ((if 0xd800 ≤ n && n < 0xe000 then '\ufffd' else Char.ofNat n) :: ·)

/-- UTF-32 as text. -/
def ofUtf32? (little : Bool) (data : List UInt8) : Option String :=
  ((pairs? little data).bind (ofQuads? little)).map String.ofList

/-- Bytes as text in the encoding that their head tells. -/
def ofBytes? (data : List UInt8) : Option String :=
  match data with
  | 0 :: 0 :: 0xfe :: 0xff :: rest => ofUtf32? false rest
  | 0xff :: 0xfe :: 0 :: 0 :: rest => ofUtf32? true rest
  | 0xfe :: 0xff :: rest => ofUtf16? false rest
  | 0xff :: 0xfe :: rest => ofUtf16? true rest
  | 0xef :: 0xbb :: 0xbf :: rest => ofUtf8? (withoutHalves rest)
  | 0 :: b :: _ :: _ :: _ => if b = 0 then ofUtf32? false data else ofUtf16? false data
  | _ :: 0 :: c :: d :: _ => if c = 0 && d = 0 then ofUtf32? true data else ofUtf16? true data
  | [0, _] => ofUtf16? false data
  | [_, 0] => ofUtf16? true data
  | _ => ofUtf8? (withoutHalves data)

end SqlWeave.Text
