import LineCensus.Number.Binary64
import LineCensus.Text.Blank
import LineCensus.Text.Case
import LineCensus.Text.Numeral
import LineCensus.Text.Quoted
import LineCensus.Text.Split
import LineCensus.Yaml.Fault

/-!
# The numbers that scalars write

A number may have a sign, low lines between its digits, a prefix for its base, or parts in base sixty
with colons between them.  A scalar with the tag of a number need not look like one; then there is
no number, or one by the rules for any numeral.
-/

namespace LineCensus.Yaml.Scalar

def splitSign : List Char → Bool × List Char
  | '-' :: rest => (true, rest)
  | '+' :: rest => (false, rest)
  | rest => (false, rest)

/-! ## Numerals -/

/-- The value of a digit, in any base: of a decimal one of any script, or of a letter. -/
def digitValue? (c : Char) : Option Nat :=
  if 'a' ≤ c && c ≤ 'z' then some (c.toNat - 87)
  else if 'A' ≤ c && c ≤ 'Z' then some (c.toNat - 55)
  else Text.digitValue? c

def leadingDigits (base : Nat) (s : List Char) : List Nat :=
  (s.map digitValue?).takeWhile (·.any (· < base)) |>.reduceOption

def dropPrefix (base : Nat) : List Char → List Char
  | '0' :: mark :: rest =>
    if (base = 2 && (mark == 'b' || mark == 'B')) || (base = 8 && (mark == 'o' || mark == 'O')) ||
        (base = 16 && (mark == 'x' || mark == 'X')) then rest
    else '0' :: mark :: rest
  | s => s

def noInteger (base : Nat) (s : List Char) : String :=
  s!"invalid literal for int() with base {base}: " ++
    String.ofList ((Text.quoted (String.ofList s)).toList.take 200)

def tooManyDigits (digits : Nat) : String :=
  s!"Exceeds the limit ({Text.numeralLimit} digits) for integer string conversion: value has " ++
    s!"{digits} digits; use sys.set_int_max_str_digits() to increase the limit"

/-- The integer that a numeral in a base writes, white space around it apart. -/
def numeral (base : Nat) (s : List Char) : Except Error Int :=
  let (negative, rest) := splitSign (Text.dropPadding s)
  let rest := dropPrefix base rest
  let digits := leadingDigits base rest
  if base = 10 && Text.numeralLimit < digits.length then
    .error (.badValue (tooManyDigits digits.length))
  else if digits.isEmpty || digits.length ≠ rest.length then .error (.badValue (noInteger base s))
  else
    let n := digits.foldl (fun n d => base * n + d) 0
    .ok (if negative then -(n : Int) else n)

def numberOf (digits : List Char) : Except Error Nat :=
  (numeral 10 digits).map Int.toNat

def integerOf (s : List Char) : Except Error Int :=
  let s := s.filter (· != '_')
  let (negative, rest) := splitSign s
  let unsigned : Except Error Int :=
    match rest with
    | [] => .error (.broken .missingCharacter)
    | ['0'] => .ok 0
    | '0' :: 'b' :: digits => numeral 2 digits
    | '0' :: 'x' :: digits => numeral 16 digits
    | '0' :: _ => numeral 8 rest
    | _ =>
      if rest.contains ':' then
        ((Text.splitAt ':' rest).mapM (numeral 10)).map fun parts =>
          parts.foldl (fun n part => 60 * n + part) 0
      else numeral 10 rest
  unsigned.map fun n => if negative then -n else n

/-! ## Numbers with a point -/

/-- The exponent of a number, with its letter; nothing is no exponent. -/
def exponent? : List Char → Option Int
  | [] => some 0
  | e :: rest =>
    let (negative, digits) := splitSign rest
    match (digits.map Text.digitValue?).mapM id with
    | some (d :: more) =>
      let n := Text.ofDigits (d :: more)
      if e == 'e' || e == 'E' then some (if negative then -(n : Int) else n) else none
    | _ => none

def decimal? (negative : Bool) (s : List Char) : Option Binary64 :=
  let isDigit (c : Char) := (Text.digitValue? c).isSome
  let whole := s.takeWhile isDigit
  let rest := s.dropWhile isDigit
  let fraction := if rest.head? = some '.' then (rest.drop 1).takeWhile isDigit else []
  let rest := if rest.head? = some '.' then (rest.drop 1).dropWhile isDigit else rest
  let digits := (whole ++ fraction).filterMap Text.digitValue?
  if digits.isEmpty then none
  else (exponent? rest).map fun e => .ofDecimal negative (Text.ofDigits digits) (e - fraction.length)

def pointNumeral (s : List Char) : Except Error Binary64 :=
  let (negative, rest) := splitSign (Text.dropPadding s)
  let word := rest.map Char.toLower
  if word = "inf".toList || word = "infinity".toList then .ok (.infinite negative)
  else if word = "nan".toList then .ok .nan
  else
    match decimal? negative rest with
    | some x => .ok x
    | none =>
      .error (.badValue ("could not convert string to float: " ++ Text.quoted (String.ofList s)))

/-- The sum of parts in base sixty, the last one first; `base` is the weight of the first of them. -/
def sumOfSixtieths (sum : Binary64) (base : Nat) : List Binary64 → Except Error Binary64
  | [] => .ok sum
  | part :: rest =>
    match Binary64.ofNat? base with
    | some weight => sumOfSixtieths (sum.add (part.mul weight)) (60 * base) rest
    | none => .error (.broken .overflow)

def floatOf (s : List Char) : Except Error Binary64 :=
  let s := (Text.lower (String.ofList (s.filter (· != '_')))).toList
  let (negative, rest) := splitSign s
  let unsigned : Except Error Binary64 :=
    if s.isEmpty then .error (.broken .missingCharacter)
    else if rest = ".inf".toList then .ok (.infinite false)
    else if rest = ".nan".toList then .ok .nan
    else if rest.contains ':' then do
      let parts ← (Text.splitAt ':' rest).mapM pointNumeral
      sumOfSixtieths (.finite false 0 Binary64.minExponent) 1 parts.reverse
    else pointNumeral rest
  unsigned.map fun x => if negative then x.neg else x

/-! ## What looks like a number -/

def isDigitOrLine (c : Char) : Bool :=
  c.isDigit || c == '_'

def isHexDigit (c : Char) : Bool :=
  c.isDigit || ('a' ≤ c && c ≤ 'f') || ('A' ≤ c && c ≤ 'F')

def isSixtieth : List Char → Bool
  | [d] => d.isDigit
  | [d, e] => '0' ≤ d && d ≤ '5' && e.isDigit
  | _ => false

def isInteger (s : List Char) : Bool :=
  match (splitSign s).2 with
  | '0' :: 'b' :: d :: rest => (d :: rest).all fun c => c == '0' || c == '1' || c == '_'
  | '0' :: 'x' :: d :: rest => (d :: rest).all fun c => isHexDigit c || c == '_'
  | '0' :: rest => rest.all fun c => ('0' ≤ c && c ≤ '7') || c == '_'
  | d :: rest =>
    match Text.splitAt ':' rest with
    | first :: more => d.isDigit && first.all isDigitOrLine && more.all isSixtieth
    | [] => false
  | [] => false

def isExponent : List Char → Bool
  | [] => true
  | e :: sign :: d :: rest =>
    (e == 'e' || e == 'E') && (sign == '+' || sign == '-') && (d :: rest).all Char.isDigit
  | _ => false

def isFloat (s : List Char) : Bool :=
  let (_, rest) := splitSign s
  let whole := rest.takeWhile (· != '.')
  match rest.dropWhile (· != '.') with
  | [] => false
  | _ :: fraction =>
    let digits := fraction.takeWhile isDigitOrLine
    match Text.splitAt ':' whole with
    | [[]] =>
      -- a number that starts with its point has no sign
      (rest.length = s.length && digits.head?.any Char.isDigit &&
          isExponent (fraction.dropWhile isDigitOrLine)) ||
        ["inf", "Inf", "INF"].contains (String.ofList fraction) ||
        (rest.length = s.length && ["nan", "NaN", "NAN"].contains (String.ofList fraction))
    | [only] =>
      only.head?.any Char.isDigit && only.all isDigitOrLine &&
        isExponent (fraction.dropWhile isDigitOrLine)
    | first :: more =>
      first.head?.any Char.isDigit && first.all isDigitOrLine && more.all isSixtieth &&
        fraction.all isDigitOrLine
    | [] => false

end LineCensus.Yaml.Scalar
