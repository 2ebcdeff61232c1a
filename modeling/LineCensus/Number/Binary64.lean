import LineCensus.Number.Power

/-!
# Binary floating point

Numbers of 53 significant bits, as exact values: a natural number times a power of two.  Every
decimal numeral is read as the nearest of them, halfway cases as the one with an even significand.
-/

namespace LineCensus

/-- A number of IEEE 754 double precision.  A finite one is `significand * 2 ^ exponent`. -/
inductive Binary64 where
  | finite (negative : Bool) (significand : Nat) (exponent : Int)
  | infinite (negative : Bool)
  | nan
  deriving DecidableEq, Repr

namespace Binary64

open Number (twoTo tenTo)

def minExponent : Int := -1074

def maxExponent : Int := 971

/-- `num / den` to the nearest natural number, halfway cases to the even one. -/
def roundDiv (num den : Nat) : Nat :=
  let q := num / den
  let r := num % den
  if 2 * r < den then q
  else if 2 * r > den then q + 1
  else if q % 2 = 0 then q else q + 1

def significandAt (num den : Nat) (exponent : Int) : Nat :=
  if exponent < 0 then roundDiv (num * twoTo exponent.natAbs) den
  else roundDiv num (den * twoTo exponent.toNat)

def ofRatio (negative : Bool) (num den : Nat) : Binary64 :=
  if num = 0 then .finite negative 0 minExponent
  else
    let guess : Int := (num.log2 : Int) - (den.log2 : Int) - 53
    let exponent := max minExponent
      (if significandAt num den guess < twoTo 53 then guess else guess + 1)
    let significand := significandAt num den exponent
    let (significand, exponent) :=
      if significand = twoTo 53 then (twoTo 52, exponent + 1) else (significand, exponent)
    if exponent > maxExponent then .infinite negative
    else .finite negative significand exponent

/-- The number nearest to `digits * 10 ^ exponent`.  Exponents so far out that they settle the
answer are settled without a computation. -/
def ofDecimal (negative : Bool) (digits : Nat) (exponent : Int) : Binary64 :=
  let magnitude : Int := (digits.log2 : Int) / 3 + exponent
  if digits = 0 then .finite negative 0 minExponent
  else if exponent > 400 then .infinite negative
  else if magnitude < -800 then .finite negative 0 minExponent
  else if exponent < 0 then ofRatio negative digits (tenTo exponent.natAbs)
  else ofRatio negative (digits * tenTo exponent.toNat) 1

def toInt? : Binary64 → Option Int
  | .finite negative significand exponent =>
    let magnitude : Option Nat :=
      if exponent < 0 then
        let unit := twoTo exponent.natAbs
        if significand % unit = 0 then some (significand / unit) else none
      else some (significand * twoTo exponent.toNat)
    magnitude.map fun n => if negative then -(n : Int) else n
  | _ => none

def isZero : Binary64 → Bool
  | .finite _ 0 _ => true
  | _ => false

def neg : Binary64 → Binary64
  | .finite negative significand exponent => .finite (!negative) significand exponent
  | .infinite negative => .infinite !negative
  | .nan => .nan

/-- The significand with its sign, at an exponent that is not above its own. -/
def scaled (negative : Bool) (significand : Nat) (exponent target : Int) : Int :=
  let n := significand * twoTo (exponent - target).toNat
  if negative then -(n : Int) else n

/-- The number nearest to the sum.  A sum of nothing is negative if both parts are. -/
def add : Binary64 → Binary64 → Binary64
  | .nan, _ => .nan
  | _, .nan => .nan
  | .infinite a, .infinite b => if a = b then .infinite a else .nan
  | .infinite a, _ => .infinite a
  | _, .infinite b => .infinite b
  | .finite a m d, .finite b n e =>
    let exponent := min d e
    let sum := scaled a m d exponent + scaled b n e exponent
    if sum = 0 then .finite (a && b) 0 minExponent
    else ofRatio (sum < 0) (sum.natAbs * twoTo exponent.toNat) (twoTo (-exponent).toNat)

def mul (x y : Binary64) : Binary64 :=
  match x, y with
  | .nan, _ => .nan
  | _, .nan => .nan
  | .infinite a, .infinite b => .infinite (a != b)
  | .infinite a, .finite b n _ => if n = 0 then .nan else .infinite (a != b)
  | .finite a m _, .infinite b => if m = 0 then .nan else .infinite (a != b)
  | .finite a m d, .finite b n e =>
    ofRatio (a != b) (m * n * twoTo (d + e).toNat) (twoTo (-(d + e)).toNat)

def ofNat? (n : Nat) : Option Binary64 :=
  match ofRatio false n 1 with
  | .finite negative significand exponent => some (.finite negative significand exponent)
  | _ => none

end Binary64

end LineCensus
