import SqlWeave.Number.Double

/-!
# The shortest decimal that reads back

Of a binary number `m · 2 ^ q` the reals that round to it form an interval, whose ends belong to it
exactly when `m` is even. The digits written are those of the first decimal grid (one digit, two
digits, ...) that has a point in the interval; of the two neighbours of the number on that grid the
nearer one is taken. Everything is exact arithmetic on natural numbers.
-/

namespace SqlWeave.Shortest

/-- A positive rational. -/
structure Ratio where
  num : Nat
  den : Nat

/-- `n · 2 ^ e` as a ratio. -/
def binary (n : Nat) (e : Int) : Ratio :=
  if e < 0 then ⟨n, pow2 e.natAbs⟩ else ⟨n * pow2 e.natAbs, 1⟩

/-- `n · 10 ^ e` as a ratio. -/
def decimal (n : Nat) (e : Int) : Ratio :=
  if e < 0 then ⟨n, pow10 e.natAbs⟩ else ⟨n * pow10 e.natAbs, 1⟩

def Ratio.lt (a b : Ratio) : Bool := a.num * b.den < b.num * a.den
def Ratio.le (a b : Ratio) : Bool := a.num * b.den ≤ b.num * a.den

/-- The distance of two ratios. -/
def Ratio.distance (a b : Ratio) : Ratio :=
  let l := a.num * b.den
  let r := b.num * a.den
  ⟨(l - r) + (r - l), a.den * b.den⟩

/-- The interval of reals that round to `m · 2 ^ q`. Below a power of two the neighbours lie half as
far apart as above it, except at the smallest exponent. -/
structure Window where
  low : Ratio
  high : Ratio
  closed : Bool

def window (m : Nat) (q : Int) : Window :=
  let low := if m = pow2 52 && q ≠ -1074 then binary (4 * m - 1) (q - 2) else binary (2 * m - 1) (q - 1)
  ⟨low, binary (2 * m + 1) (q - 1), m % 2 = 0⟩

def Window.holds (w : Window) (x : Ratio) : Bool :=
  if w.closed then w.low.le x && x.le w.high else w.low.lt x && x.lt w.high

/-- The exponent of the leading decimal digit. -/
def leadingExponent (v : Ratio) : Int :=
  if v.den ≤ v.num then Int.ofNat ((Nat.toDigits 10 (v.num / v.den)).length - 1)
  else match (List.range 400).find? fun j => v.den ≤ v.num * pow10 (j + 1) with
    | some j => -Int.ofNat (j + 1)
    | none => -400

/-- The digits and the exponent of the last one, on the grid of `count` digits. -/
def onGrid (v : Ratio) (w : Window) (lead : Int) (count : Nat) : Option (Nat × Int) :=
  let k := lead + 1 - Int.ofNat count
  let unit := decimal 1 k
  let below := v.num * unit.den / (v.den * unit.num)
  let lowHit := below ≠ 0 && w.holds (decimal below k)
  let highHit := w.holds (decimal (below + 1) k)
  if lowHit && highHit then
    let dl := v.distance (decimal below k)
    let dh := v.distance (decimal (below + 1) k)
    if dl.lt dh then some (below, k)
    else if dh.lt dl then some (below + 1, k)
    else some (if below % 2 = 0 then below else below + 1, k)
  else if lowHit then some (below, k)
  else if highHit then some (below + 1, k)
  else none

/-- Takes trailing zeros off the digits. -/
def strip (d : Nat) (k : Int) : Nat → Nat × Int
  | 0 => (d, k)
  | fuel + 1 => if d % 10 = 0 && d ≠ 0 then strip (d / 10) (k + 1) fuel else (d, k)

/-- The shortest digits for `m · 2 ^ q` with `m > 0`, as digits and the exponent of the last one. -/
def digits (m : Nat) (q : Int) : Nat × Int :=
  let v := binary m q
  let w := window m q
  let lead := leadingExponent v
  match (List.range 17).findSome? fun i => onGrid v w lead (i + 1) with
  | some (d, k) => strip d k 20
  | none => (m, q)

end SqlWeave.Shortest
