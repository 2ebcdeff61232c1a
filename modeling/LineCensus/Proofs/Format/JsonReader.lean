import LineCensus.Yaml.Quote

/-!
# Reading JSON

A reader of JSON documents, as the grammar of JSON has them: white space between tokens, all
escapes within texts, and numbers with fractions and exponents.  It reads one character after the
other and is used for statements on reports only.
-/

namespace LineCensus

/-- What a document says.  A number is `mantissa * 10 ^ exponent`; items and fields stand in their
order. -/
inductive JsonValue where
  | null
  | bool (b : Bool)
  | number (mantissa exponent : Int)
  | string (s : String)
  | array (items : List JsonValue)
  | object (fields : List (String × JsonValue))

namespace JsonReader

/-! ## Words -/

def digits? (digits : List Char) : Option Nat :=
  if digits ≠ [] ∧ digits.all Char.isDigit then some (Nat.ofDigitChars 10 digits 0) else none

def fraction? : List Char → Option (List Char × List Char)
  | '.' :: rest =>
    let digits := rest.takeWhile Char.isDigit
    if digits = [] then none else some (digits, rest.dropWhile Char.isDigit)
  | rest => some ([], rest)

def exponent? : List Char → Option Int
  | [] => some 0
  | mark :: rest =>
    if mark = 'e' ∨ mark = 'E' then
      match rest with
      | '+' :: digits => (digits? digits).map (↑·)
      | '-' :: digits => (digits? digits).map fun n => -(n : Int)
      | digits => (digits? digits).map (↑·)
    else none

def unsigned? (chars : List Char) : Option (Nat × Int) := do
  let whole := chars.takeWhile Char.isDigit
  if whole = [] ∨ whole.head? = some '0' ∧ whole.length ≠ 1 then none
  let (fraction, rest) ← fraction? (chars.dropWhile Char.isDigit)
  let exponent ← exponent? rest
  some (Nat.ofDigitChars 10 (whole ++ fraction) 0, exponent - fraction.length)

def word? (chars : List Char) : Option JsonValue :=
  match chars with
  | ['n', 'u', 'l', 'l'] => some .null
  | ['t', 'r', 'u', 'e'] => some (.bool true)
  | ['f', 'a', 'l', 's', 'e'] => some (.bool false)
  | '-' :: rest => (unsigned? rest).map fun (mantissa, exponent) => .number (-mantissa) exponent
  | _ => (unsigned? chars).map fun (mantissa, exponent) => .number mantissa exponent

/-! ## Texts -/

def escapes : List (Char × Char) :=
  [('"', '"'), ('\\', '\\'), ('/', '/'), ('b', '\x08'), ('f', '\x0c'), ('n', '\n'), ('r', '\r'),
   ('t', '\t')]

def chars? : List Nat → Option (List Char)
  | [] => some []
  | unit :: rest =>
    if 0xD800 ≤ unit ∧ unit < 0xDC00 then
      match rest with
      | second :: rest =>
        if 0xDC00 ≤ second ∧ second < 0xE000 then
          (chars? rest).map
            (Char.ofNat (0x10000 + 0x400 * (unit - 0xD800) + (second - 0xDC00)) :: ·)
        else none
      | [] => none
    else if 0xDC00 ≤ unit ∧ unit < 0xE000 then none
    else (chars? rest).map (Char.ofNat unit :: ·)

/-! ## Values in one another -/

inductive Token where
  | mark (c : Char)
  | text (s : String)
  | word (v : JsonValue)

/-- An array or an object that is not closed yet, with what it holds up to now in reverse; an
object waits for the value under a name. -/
inductive Frame where
  | array (items : List JsonValue)
  | object (fields : List (String × JsonValue)) (name : String)

/-- What may come next. -/
inductive State where
  | value (outer : List Frame)
  | afterItem (items : List JsonValue) (outer : List Frame)
  | name (fields : List (String × JsonValue)) (outer : List Frame)
  | colon (fields : List (String × JsonValue)) (name : String) (outer : List Frame)
  | afterField (fields : List (String × JsonValue)) (outer : List Frame)
  | finished (v : JsonValue)

def put (v : JsonValue) : List Frame → State
  | [] => .finished v
  | .array items :: outer => .afterItem (v :: items) outer
  | .object fields name :: outer => .afterField ((name, v) :: fields) outer

def take : State → Token → Option State
  | .value outer, .word v => some (put v outer)
  | .value outer, .text s => some (put (.string s) outer)
  | .value outer, .mark '[' => some (.value (.array [] :: outer))
  | .value outer, .mark '{' => some (.name [] outer)
  -- There are items if a comma was read, so this is the end of an array without any.
  | .value (.array [] :: outer), .mark ']' => some (put (.array []) outer)
  | .afterItem items outer, .mark ',' => some (.value (.array items :: outer))
  | .afterItem items outer, .mark ']' => some (put (.array items.reverse) outer)
  | .name fields outer, .text s => some (.colon fields s outer)
  | .name [] outer, .mark '}' => some (put (.object []) outer)
  | .colon fields name outer, .mark ':' => some (.value (.object fields name :: outer))
  | .afterField fields outer, .mark ',' => some (.name fields outer)
  | .afterField fields outer, .mark '}' => some (put (.object fields.reverse) outer)
  | _, _ => none

/-! ## Characters -/

/-- Which token is read, with what was read of it in reverse. -/
inductive Lexing where
  | outside
  | word (chars : List Char)
  | text (units : List Nat)
  | escape (units : List Nat)
  | code (units : List Nat) (digits : List Char)

structure Reader where
  lexing : Lexing
  state : State

def isSpace (c : Char) : Bool :=
  [' ', '\t', '\n', '\r'].contains c

def isMark (c : Char) : Bool :=
  ['[', ']', '{', '}', ':', ','].contains c

def endsWord (c : Char) : Bool :=
  isSpace c || isMark c || c == '"'

def start (state : State) (c : Char) : Option Reader :=
  if isSpace c then some ⟨.outside, state⟩
  else if isMark c then (take state (.mark c)).map (⟨.outside, ·⟩)
  else if c = '"' then some ⟨.text [], state⟩
  else some ⟨.word [c], state⟩

def step : Reader → Char → Option Reader
  | ⟨.outside, state⟩, c => start state c
  | ⟨.word chars, state⟩, c =>
    if endsWord c then do
      let v ← word? chars.reverse
      let next ← take state (.word v)
      start next c
    else some ⟨.word (c :: chars), state⟩
  | ⟨.text units, state⟩, c =>
    if c = '"' then do
      let chars ← chars? units.reverse
      let next ← take state (.text (String.ofList chars))
      some ⟨.outside, next⟩
    else if c = '\\' then some ⟨.escape units, state⟩
    else if c.toNat < 0x20 then none
    else some ⟨.text (c.toNat :: units), state⟩
  | ⟨.escape units, state⟩, c =>
    if c = 'u' then some ⟨.code units [], state⟩
    else (escapes.lookup c).map fun escaped => ⟨.text (escaped.toNat :: units), state⟩
  | ⟨.code units digits, state⟩, c =>
    let digits := digits ++ [c]
    if digits.length < 4 then some ⟨.code units digits, state⟩
    else (Yaml.hexNumber? digits).map fun unit => ⟨.text (unit :: units), state⟩

def run (r : Reader) (chars : List Char) : Option Reader :=
  chars.foldlM step r

def read? (document : String) : Option JsonValue :=
  match run ⟨.outside, .value []⟩ (document.toList ++ [' ']) with
  | some ⟨.outside, .finished v⟩ => some v
  | _ => none

example : read? " [-1.50e+1, \x7b\"\\ud83d\\ude00\" : [null]\x7d] " =
    some (.array [.number (-150) (-1), .object [("😀", .array [.null])]]) := by cbv

example : (read? "[1,]").isNone := by cbv

end JsonReader

end LineCensus
