import LineCensus.Text.Blank
import LineCensus.Text.Digit

/-!
# Integer numerals

Decimal digits of any script, with single low lines between them, a sign in front and white space
around it all.
-/

namespace LineCensus.Text

/-- The longest numeral that is read, in digits. -/
def numeralLimit : Nat := 4300

/-- The values of the digits that a text consists of, which single low lines may part. -/
def digitValues? : List Char → Option (List Nat)
  | [] => none
  | [c] => (digitValue? c).map ([·])
  | c :: '_' :: rest => do
    let d ← digitValue? c
    let others ← digitValues? rest
    some (d :: others)
  | c :: rest => do
    let d ← digitValue? c
    let others ← digitValues? rest
    some (d :: others)

def ofDigits (digits : List Nat) : Nat :=
  digits.foldl (fun n d => 10 * n + d) 0

def integer? (s : String) : Option Int :=
  let (negative, digits) :=
    match dropPadding s.toList with
    | '-' :: rest => (true, rest)
    | '+' :: rest => (false, rest)
    | rest => (false, rest)
  match digitValues? digits with
  | some values =>
    if values.length ≤ numeralLimit then
      some (if negative then -(ofDigits values : Int) else ofDigits values)
    else none
  | none => none

end LineCensus.Text
