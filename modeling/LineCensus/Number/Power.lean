/-!
# Powers

The powers that numerals and floating-point numbers are made of.
-/

namespace LineCensus.Number

def twoTo (exponent : Nat) : Nat :=
  Nat.pow 2 exponent

def tenTo (exponent : Nat) : Nat :=
  Nat.pow 10 exponent

end LineCensus.Number
