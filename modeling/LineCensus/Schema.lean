import LineCensus.Text.Blank
import LineCensus.Text.Utf8
import LineCensus.Value

/-!
# Checking values

A record is built from named values.  Each field says which values it takes and what it makes of
them; all faults of a record are collected, in the order of the fields.
-/

namespace LineCensus.Schema

inductive Step where
  | field (name : String)
  | index (n : Nat)
  deriving DecidableEq, Repr

inductive Cause where
  | notText
  | notUtf8
  | notInteger
  | notNumeral
  | notWhole
  | notFinite
  | tooLarge
  | notTruth
  | notTruthWord
  | notTuple
  | missing
  | tooLong
  | unexpected
  | refused
  deriving DecidableEq, Repr

def Cause.text : Cause → String
  | .notText => "string_type"
  | .notUtf8 => "string_unicode"
  | .notInteger => "int_type"
  | .notNumeral => "int_parsing"
  | .notWhole => "int_from_float"
  | .notFinite => "finite_number"
  | .tooLarge => "int_parsing_size"
  | .notTruth => "bool_type"
  | .notTruthWord => "bool_parsing"
  | .notTuple => "tuple_type"
  | .missing => "missing"
  | .tooLong => "too_long"
  | .unexpected => "extra_forbidden"
  | .refused => "value_error"

structure Fault where
  place : List Step
  cause : Cause
  deriving DecidableEq, Repr

structure Invalid where
  title : String
  faults : List Fault
  deriving DecidableEq, Repr

def Invalid.summary (e : Invalid) : String :=
  let noun := if e.faults.length = 1 then "error" else "errors"
  s!"{e.faults.length} validation {noun} for {e.title}"

/-- A value that passed, or the faults found. -/
abbrev Checked (α : Type) := Except (List Fault) α

namespace Checked

variable {α β : Type}

def fail (cause : Cause) : Checked α :=
  .error [⟨[], cause⟩]

def under (step : Step) (c : Checked α) : Checked α :=
  c.mapError fun faults => faults.map fun f => { f with place := step :: f.place }

/-- Both parts are checked, whether or not the first one passes. -/
def also (f : Checked (α → β)) (x : Checked α) : Checked β :=
  match f, x with
  | .ok f, .ok a => .ok (f a)
  | .ok _, .error e => .error e
  | .error e, .ok _ => .error e
  | .error e, .error e' => .error (e ++ e')

def all (check : Nat → Value → Checked α) : Nat → List Value → Checked (List α)
  | _, [] => .ok []
  | i, v :: rest => also (Except.map List.cons (check i v)) (all check (i + 1) rest)

end Checked

def decoded (content : List UInt8) (fault : Cause) : Checked String :=
  match Text.Utf8.decode content with
  | .ok chars => .ok (String.ofList chars)
  | .error _ => .fail fault

def asText : Value → Checked String
  | .text s => .ok s
  | .bytes content => decoded content .notUtf8
  | _ => .fail .notText

/-- The digits of a numeral, in which single low lines may stand between digits. -/
def digits? : List Char → Option (List Char)
  | [] => some []
  | '_' :: d :: rest => if d.isDigit then (digits? rest).map (d :: ·) else none
  | c :: rest => if c.isDigit then (digits? rest).map (c :: ·) else none

/-- An unsigned numeral: digits, which may be followed by a point and zeros. -/
def natural? (s : List Char) : Option Nat :=
  let whole := s.takeWhile (· ≠ '.')
  let fraction := s.dropWhile (· ≠ '.')
  match whole with
  | d :: _ =>
    if d.isDigit && (fraction.drop 1).all (· = '0') then
      (digits? whole).map (Nat.ofDigitChars 10 · 0)
    else none
  | [] => none

def integer? (s : String) : Option Int :=
  match Text.dropPadding s.toList with
  | '-' :: rest => (natural? rest).map fun n => -(n : Int)
  | '+' :: rest => (natural? rest).map fun n => (n : Int)
  | rest => (natural? rest).map fun n => (n : Int)

def integerOf (s : String) : Checked Int :=
  if s.utf8ByteSize > 4300 then .fail .tooLarge
  else
    match integer? s with
    | some n => .ok n
    | none => .fail .notNumeral

/-- An integer: an integer numeral, a truth value or a number without a fraction will do. -/
def asInteger : Value → Checked Int
  | .int n => .ok n
  | .bool b => .ok b.toNat
  | .float x =>
    match x with
    | .finite .. =>
      match x.toInt? with
      | some n => if n.natAbs ≤ Number.twoTo 63 then .ok n else .fail .tooLarge
      | none => .fail .notWhole
    | _ => .fail .notFinite
  | .text s => integerOf s
  | .bytes content => decoded content .notNumeral >>= integerOf
  | _ => .fail .notInteger

def trueWords : List String := ["1", "on", "t", "true", "y", "yes"]

def falseWords : List String := ["0", "off", "f", "false", "n", "no"]

def truthOf : Int → Checked Bool
  | 0 => .ok false
  | 1 => .ok true
  | _ => .fail .notTruthWord

def truthOfWord (s : String) : Checked Bool :=
  let word := String.ofList (s.toList.map Char.toLower)
  if trueWords.contains word then .ok true
  else if falseWords.contains word then .ok false
  else .fail .notTruthWord

/-- A truth value; one and zero and the usual words will do. -/
def asTruth : Value → Checked Bool
  | .bool b => .ok b
  | .int n => if n.natAbs < Number.twoTo 63 then truthOf n else .fail .notTruth
  | .float x =>
    match x.toInt? with
    | some n => truthOf n
    | none => .fail .notTruth
  | .text s => truthOfWord s
  | .bytes content => decoded content .notTruthWord >>= truthOfWord
  | _ => .fail .notTruth

def orNull {α : Type} (check : Value → Checked α) : Value → Checked (Option α)
  | .null => .ok none
  | v => (check v).map some

def itemsOf? : Value → Option (List Value)
  | .list items | .tuple items | .set items => some items
  | _ => none

def asList {α : Type} (check : Value → Checked α) (v : Value) : Checked (List α) :=
  match itemsOf? v with
  | some items => Checked.all (fun i v => (check v).under (.index i)) 0 items
  | none => .fail .notTuple

def asPair {α : Type} (check : Value → Checked α) (v : Value) : Checked (α × α) :=
  match itemsOf? v with
  | some items =>
    let item (i : Nat) : Checked α :=
      ((items[i]?.map check).getD (.fail .missing)).under (.index i)
    if items.length > 2 then .fail .tooLong
    else Checked.also (Except.map Prod.mk (item 0)) (item 1)
  | none => .fail .notTuple

abbrev Fields := List (String × Value)

def required {α : Type} (fields : Fields) (name : String) (check : Value → Checked α) :
    Checked α :=
  ((((fields.find? (·.1 == name)).map (check ·.2)).getD (.fail .missing))).under (.field name)

def optional {α : Type} (fields : Fields) (name : String) (default : α)
    (check : Value → Checked α) : Checked α :=
  ((((fields.find? (·.1 == name)).map (check ·.2)).getD (.ok default))).under (.field name)

def noOthers (fields : Fields) (known : List String) : Checked Unit :=
  match (fields.filter fun (name, _) => !known.contains name).map
      (fun (name, _) => (⟨[.field name], .unexpected⟩ : Fault)) with
  | [] => .ok ()
  | faults => .error faults

def named {α : Type} (title : String) (c : Checked α) : Except Invalid α :=
  c.mapError fun faults => ⟨title, faults⟩

end LineCensus.Schema
