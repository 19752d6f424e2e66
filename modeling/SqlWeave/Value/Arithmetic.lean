import SqlWeave.Failure

/-!
# Values as numbers

Whole numbers, truth values as one and zero, and binary numbers are added, subtracted, multiplied and
compared. A result is binary as soon as one of the operands is, and whole otherwise; comparison does
not round. Anything else is no number, and a whole number that lies beyond all binary ones cannot be
taken together with one.
-/

namespace SqlWeave.Value

/-- A whole number as a binary one. -/
def binaryOf (n : Int) : Result Double :=
  match Double.ofInt? n with
  | some x => .ok x
  | none => .error (.overflow "int too large to convert to float")

/-- Takes two numbers together. -/
def combined (whole : Int → Int → Int) (binary : Double → Double → Double) (v w : Value) :
    Result Value :=
  match v, w, v.int?, w.int? with
  | _, _, some m, some n => .ok (.int (whole m n))
  | .float x, .float y, _, _ => .ok (.float (binary x y))
  | .float x, _, _, some n => (binaryOf n).map fun y => .float (binary x y)
  | _, .float y, some m, _ => (binaryOf m).map fun x => .float (binary x y)
  | _, _, _, _ => .error .wrongKind

/-- The sum of two numbers. -/
def plus (v w : Value) : Result Value := combined (· + ·) (· + ·) v w

/-- The difference of two numbers. -/
def minus (v w : Value) : Result Value := combined (· - ·) (· - ·) v w

/-- The product of two numbers. -/
def times (v w : Value) : Result Value := combined (· * ·) (· * ·) v w

/-- Is a number less than another? A number that is none is in no order. -/
def isLess (v w : Value) : Result Bool :=
  match v, w, v.int?, w.int? with
  | _, _, some m, some n => .ok (m < n)
  | .float x, .float y, _, _ => .ok (x.lt y)
  | .float x, _, _, some n => .ok (Double.compareInt? n x = some .gt)
  | _, .float y, some m, _ => .ok (Double.compareInt? m y = some .lt)
  | _, _, _, _ => .error .wrongKind

/-- The smaller of two numbers; of two equal ones the first. -/
def least (v w : Value) : Result Value := do
  return if ← w.isLess v then w else v

/-- Of two whole numbers the smaller one is the lesser in the order of the integers. -/
theorem least_int (m n : Int) : least (.int m) (.int n) = .ok (.int (min m n)) := by
  by_cases h : n < m
  · simp [least, isLess, int?, h, bind, Except.bind, pure, Except.pure, Int.min_eq_right (Int.le_of_lt h)]
  · simp [least, isLess, int?, h, bind, Except.bind, pure, Except.pure, Int.min_eq_left (Int.not_lt.mp h)]

end SqlWeave.Value
