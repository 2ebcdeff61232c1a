import LineCensus.Number.Binary64

/-!
# The shortest decimal numeral

A floating-point number is written with the fewest digits that read back as the same number, and
of those with the nearest.  Numbers from `0.0001` up to `10 ^ 16` are written in positions, with at
least one digit after the point; all others with an exponent of at least two digits.
-/

namespace LineCensus.Binary64

open Number (twoTo tenTo)

/-- A positive number and the numbers that read back as it, all as multiples of `1 / unit`: those
between `low` and `high`, these included when `closed`. -/
structure Span where
  value : Nat
  low : Nat
  high : Nat
  closed : Bool
  unit : Nat

def span (significand : Nat) (exponent : Int) : Span :=
  let scale := if exponent < 0 then 1 else twoTo exponent.toNat
  let below := if significand = twoTo 52 && exponent > minExponent then 1 else 2
  { value := 4 * significand * scale
    low := (4 * significand - below) * scale
    high := (4 * significand + 2) * scale
    closed := significand % 2 = 0
    unit := if exponent < 0 then 4 * twoTo exponent.natAbs else 4 }

def Span.holds (s : Span) (digits : Nat) (place : Int) : Bool :=
  let point := if place < 0 then digits * s.unit else digits * s.unit * tenTo place.toNat
  let factor := if place < 0 then tenTo place.natAbs else 1
  if s.closed then s.low * factor ≤ point && point ≤ s.high * factor
  else s.low * factor < point && point < s.high * factor

def Span.atPlace? (s : Span) (place : Int) : Option Nat :=
  let num := if place < 0 then s.value * tenTo place.natAbs else s.value
  let den := if place < 0 then s.unit else s.unit * tenTo place.toNat
  let below := num / den
  let nearest := roundDiv num den
  let other := if nearest = below then below + 1 else below
  if s.holds nearest place then some nearest
  else if s.holds other place then some other
  else none

def leadingPlace (num den : Nat) : Int :=
  if den ≤ num then ((Nat.toDigits 10 (num / den)).length : Int) - 1
  else
    let n := (Nat.toDigits 10 (den / num)).length
    if num * tenTo (n - 1) ≥ den then -((n - 1 : Nat) : Int) else -(n : Int)

/-- The first place, from `place` downwards, at which a numeral reads back. -/
def Span.shortest (s : Span) (place : Int) : (fuel : Nat) → Nat × Int
  | 0 => ((s.atPlace? place).getD 0, place)
  | fuel + 1 =>
    match s.atPlace? place with
    | some digits => (digits, place)
    | none => Span.shortest s (place - 1) fuel

/-- The digits of the numeral, without zeros at the end, and the place of the last one. -/
def dropZeros : (fuel : Nat) → Nat → Int → Nat × Int
  | 0, digits, place => (digits, place)
  | fuel + 1, digits, place =>
    if digits ≠ 0 && digits % 10 = 0 then dropZeros fuel (digits / 10) (place + 1)
    else (digits, place)

def numeral (digits : Nat) (place : Int) : String :=
  let ds := Nat.toDigits 10 digits
  let lead : Int := (ds.length : Int) - 1 + place
  if -4 ≤ lead && lead < 16 then
    if 0 ≤ place then String.ofList (ds ++ List.replicate place.toNat '0') ++ ".0"
    else if 0 ≤ lead then
      let whole := lead.toNat + 1
      String.ofList (ds.take whole) ++ "." ++ String.ofList (ds.drop whole)
    else "0." ++ String.ofList (List.replicate (lead.natAbs - 1) '0' ++ ds)
  else
    let exponent := toString lead.natAbs
    let exponent := if exponent.length < 2 then "0" ++ exponent else exponent
    let mantissa :=
      match ds with
      | [d] => String.ofList [d]
      | d :: more => String.ofList (d :: '.' :: more)
      | [] => "0"
    mantissa ++ "e" ++ (if lead < 0 then "-" else "+") ++ exponent

def text : Binary64 → String
  | .nan => "nan"
  | .infinite negative => if negative then "-inf" else "inf"
  | .finite negative significand exponent =>
    let sign := if negative then "-" else ""
    if significand = 0 then sign ++ "0.0"
    else
      let s := span significand exponent
      let (digits, place) := s.shortest (leadingPlace s.value s.unit) 17
      let (digits, place) := dropZeros 20 digits place
      sign ++ numeral digits place

end LineCensus.Binary64
