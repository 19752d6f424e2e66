/-!
# Powers of two and of ten

The powers that binary and decimal numbers are made of.
-/

namespace SqlWeave

/-- Two to the power of `k`. -/
def pow2 (k : Nat) : Nat := Nat.pow 2 k

/-- Ten to the power of `k`. -/
def pow10 (k : Nat) : Nat := Nat.pow 10 k

end SqlWeave
