import SqlWeave.Number.Power

/-!
# Binary floating-point numbers

A `Double` is its 64 bits, so that two of them are equal exactly when they are the same number in
the same spelling; `read` says which number the bits mean. Arithmetic goes through the machine's
operations.
-/

namespace SqlWeave

/-- A number of 64 bits: sign, eleven bits of exponent, 52 bits of fraction. -/
structure Double where
  bits : UInt64
  deriving DecidableEq

namespace Double

/-- What the bits mean: `significand · 2 ^ exponent`, or no finite number. -/
inductive Reading where
  | nan
  | infinite (negative : Bool)
  | finite (negative : Bool) (significand : Nat) (exponent : Int)
  deriving DecidableEq

/-- The sign bit. -/
def isNegative (x : Double) : Bool := x.bits.toNat / pow2 63 = 1

/-- Normal numbers carry a hidden leading bit; the smallest exponent holds the subnormal ones. -/
def read (x : Double) : Reading :=
  let n := x.bits.toNat
  let biased := n / pow2 52 % pow2 11
  let fraction := n % pow2 52
  if biased = 2047 then if fraction = 0 then .infinite x.isNegative else .nan
  else if biased = 0 then .finite x.isNegative fraction (-1074)
  else .finite x.isNegative (pow2 52 + fraction) (Int.ofNat biased - 1075)

def toFloat (x : Double) : Float := Float.ofBits x.bits

def ofFloat (x : Float) : Double := ⟨x.toBits⟩

def ofInt (n : Int) : Double := ofFloat (Float.ofInt n)

/-- No number. -/
def nan : Double := ofFloat (0.0 / 0.0)

/-- The infinite number of a sign. -/
def infinity (negative : Bool) : Double := ofFloat (if negative then -(1.0 / 0.0) else 1.0 / 0.0)

/-- The number `digits · 10 ^ exponent`, rounded to nearest. Beyond `10 ^ 310` lies no finite
number, and below `10 ^ -330` none but zero. -/
def ofDecimal (negative : Bool) (digits : Nat) (exponent : Int) : Double :=
  let lead := exponent + Int.ofNat (toString digits).length
  let size : Float :=
    if digits = 0 || lead < -330 then 0
    else if 310 < lead then 1.0 / 0.0
    else Float.ofScientific digits (exponent < 0) exponent.natAbs
  ofFloat (if negative then -size else size)

instance : Add Double := ⟨fun a b => ofFloat (a.toFloat + b.toFloat)⟩
instance : Sub Double := ⟨fun a b => ofFloat (a.toFloat - b.toFloat)⟩
instance : Mul Double := ⟨fun a b => ofFloat (a.toFloat * b.toFloat)⟩

/-- Comparison by value: no order with a number that is none. -/
def lt (a b : Double) : Bool := a.toFloat < b.toFloat

/-- Equality by value: both zeros are equal, no number equals one that is none. -/
def sameValue (a b : Double) : Bool := a.toFloat == b.toFloat

/-- Rounds toward zero; `none` when the number is not finite. -/
def truncate? (x : Double) : Option Int :=
  match x.read with
  | .finite negative m e =>
    let size : Nat := if e < 0 then m / pow2 e.natAbs else m * pow2 e.natAbs
    some (if negative then -Int.ofNat size else Int.ofNat size)
  | _ => none

/-- The integer that the number is, if it is one. -/
def toInt? (x : Double) : Option Int :=
  match x.read with
  | .finite _ m e => if e < 0 && m % pow2 e.natAbs != 0 then none else x.truncate?
  | _ => none

/-- How a whole number compares with a number; with one that is none not at all. -/
def compareInt? (n : Int) (x : Double) : Option Ordering :=
  match x.read with
  | .nan => none
  | .infinite negative => some (if negative then .gt else .lt)
  | .finite negative m e =>
    let size : Int := if e < 0 then Int.ofNat m else Int.ofNat (m * pow2 e.natAbs)
    let scaled : Int := if e < 0 then n * Int.ofNat (pow2 e.natAbs) else n
    some (compare scaled (if negative then -size else size))

/-- The number nearest to a whole number; `none` when that lies beyond all finite numbers. -/
def ofInt? (n : Int) : Option Double :=
  match (ofInt n).read with
  | .infinite _ => none
  | _ => some (ofInt n)

end Double

end SqlWeave
