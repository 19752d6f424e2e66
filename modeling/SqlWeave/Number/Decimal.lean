import SqlWeave.Number.Shortest

/-!
# Numbers as decimal text

`display` writes the fewest digits that read back: positional from `1e-4` up to below `1e16`, with
`.0` on whole numbers, otherwise with an exponent of at least two digits. `fixed` writes a number
with a fixed count of decimals, a half going to the even neighbour.
-/

namespace SqlWeave.Decimal

/-- `n` as decimal digits, at least `width` of them. -/
def padded (width n : Nat) : String :=
  let ds := toString n
  String.ofList (List.replicate (width - ds.length) '0') ++ ds

/-- Positional text of `digits · 10 ^ exponent`. -/
def positional (digits : Nat) (exponent : Int) : String :=
  if 0 ≤ exponent then toString (digits * pow10 exponent.natAbs) ++ ".0"
  else
    let places := exponent.natAbs
    toString (digits / pow10 places) ++ "." ++ padded places (digits % pow10 places)

/-- Text with an exponent: one digit, the point when more follow, the exponent's sign and size. -/
def scientific (digits : Nat) (exponent : Int) : String :=
  let ds := Nat.toDigits 10 digits
  let lead := exponent + Int.ofNat (ds.length - 1)
  let mantissa := match ds with
    | first :: second :: rest => first :: '.' :: second :: rest
    | _ => ds
  String.ofList mantissa ++ (if lead < 0 then "e-" else "e+") ++ padded 2 lead.natAbs

/-- The text of a finite size above zero. -/
def magnitude (m : Nat) (q : Int) : String :=
  let (d, k) := Shortest.digits m q
  let lead := k + Int.ofNat ((toString d).length - 1)
  if -4 ≤ lead && lead < 16 then positional d k else scientific d k

/-- The text of a number with the given words for the infinite and the undefined. -/
def displayWith (infinity nan : String) (x : Double) : String :=
  match x.read with
  | .nan => nan
  | .infinite negative => (if negative then "-" else "") ++ infinity
  | .finite negative m q =>
    (if negative then "-" else "") ++ (if m = 0 then "0.0" else magnitude m q)

/-- The text of a number. -/
def display (x : Double) : String := displayWith "inf" "nan" x

/-- `num / den` rounded to a whole number, a half going to the even neighbour. -/
def roundDiv (num den : Nat) : Nat :=
  let q := num / den
  let r := num % den
  if 2 * r < den then q else if den < 2 * r then q + 1 else if q % 2 = 0 then q else q + 1

/-! ## A count of digits -/

/-- The forms in which a number is written with a given count of digits. -/
inductive Form where
  /-- That many decimals. -/
  | fixed
  /-- One digit, that many decimals and an exponent. -/
  | exponential
  /-- That many digits, with an exponent when the number is very small or has more digits than that
  before the point. -/
  | general
  deriving DecidableEq, Inhabited

/-- The whole part and the decimals; the point stands before decimals, or always when it is kept. -/
def pointed (keepPoint : Bool) (whole decimals : String) : String :=
  if decimals.isEmpty && !keepPoint then whole else whole ++ "." ++ decimals

/-- The leading digits of a size, so many of them, and the exponent of the first one. -/
def leading (count : Nat) (v : Shortest.Ratio) : Nat × Int :=
  if v.num = 0 then (0, 0)
  else
    let lead := Shortest.leadingExponent v
    let unit := Shortest.decimal 1 (lead + 1 - Int.ofNat count)
    let n := roundDiv (v.num * unit.den) (v.den * unit.num)
    if n = pow10 count then (pow10 (count - 1), lead + 1) else (n, lead)

/-- A size with so many decimals. -/
def withPlaces (keepPoint : Bool) (places : Nat) (v : Shortest.Ratio) : String :=
  let n := roundDiv (v.num * pow10 places) v.den
  pointed keepPoint (toString (n / pow10 places))
    (if places = 0 then "" else padded places (n % pow10 places))

/-- Digits behind which zeros count for nothing. -/
def withoutZeros (digits : String) : String :=
  String.ofList (digits.toList.reverse.dropWhile (· = '0')).reverse

/-- One digit, the decimals and the exponent of ten. -/
def withExponent (keepPoint keepZeros : Bool) (digits : String) (lead : Int) : String :=
  let decimals := String.ofList (digits.toList.drop 1)
  pointed keepPoint (String.ofList (digits.toList.take 1)) (if keepZeros then decimals else withoutZeros decimals) ++
    (if lead < 0 then "e-" else "e+") ++ padded 2 lead.natAbs

/-- A size in a form. An alternate text keeps the point and the zeros behind it. -/
def sizeAs (form : Form) (count : Nat) (alternate : Bool) (v : Shortest.Ratio) : String :=
  match form with
  | .fixed => withPlaces alternate count v
  | .exponential =>
    let (n, lead) := leading (count + 1) v
    withExponent alternate true (padded (count + 1) n) lead
  | .general =>
    let count := max count 1
    let (n, lead) := leading count v
    let digits := padded count n
    if lead < -4 || Int.ofNat count ≤ lead then withExponent alternate alternate digits lead
    else
      let all := String.ofList (List.replicate (-lead).toNat '0') ++ digits
      let cut := lead.toNat + 1
      let decimals := String.ofList (all.toList.drop cut)
      pointed alternate (String.ofList (all.toList.take cut)) (if alternate then decimals else withoutZeros decimals)

/-- A number in a form. -/
def writeAs (form : Form) (count : Nat) (alternate : Bool) (x : Double) : String :=
  match x.read with
  | .nan => "nan"
  | .infinite negative => (if negative then "-" else "") ++ "inf"
  | .finite negative m q => (if negative then "-" else "") ++ sizeAs form count alternate (Shortest.binary m q)

/-- A number with `places` decimals. -/
def fixed (places : Nat) (x : Double) : String := writeAs .fixed places false x

end SqlWeave.Decimal
