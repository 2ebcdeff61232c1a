import LineCensus.Value
import LineCensus.Yaml.Number

/-!
# Days and moments in scalars

A day is written in digits with dashes; a time of the day may follow, with a fraction of a second and
with the difference of the clock to universal time.
-/

namespace LineCensus.Yaml

structure ClockTime where
  hour : Nat
  minute : Nat
  second : Nat
  fraction : List Char := []
  /-- The sign of the difference to universal time, and its hours and minutes. -/
  zone : Option (Bool × Nat × Nat) := none

structure Stamp where
  year : Nat
  month : List Char
  day : List Char
  time : Option ClockTime := none

namespace Stamp

def takeDigits (low high : Nat) (s : List Char) : Option (List Char × List Char) :=
  let digits := (s.take high).takeWhile Char.isDigit
  if low ≤ digits.length then some (digits, s.drop digits.length) else none

def takeChar (c : Char) : List Char → Option (List Char)
  | first :: rest => if first = c then some rest else none
  | [] => none

def isGap (c : Char) : Bool :=
  c == ' ' || c == '\t'

def zone? (s : List Char) : Option (Option (Bool × Nat × Nat)) :=
  let number (digits : List Char) := Nat.ofDigitChars 10 digits 0
  match s.dropWhile isGap with
  | [] => if s.isEmpty then some none else none
  | ['Z'] => some (some (false, 0, 0))
  | sign :: rest =>
    if sign = '+' || sign = '-' then do
      let (hour, rest) ← takeDigits 1 2 rest
      if rest.isEmpty then some (some (sign == '-', number hour, 0))
      else
        let (minute, rest) ← takeDigits 2 2 (← takeChar ':' rest)
        if rest.isEmpty then some (some (sign == '-', number hour, number minute)) else none
    else none

def clock? (s : List Char) : Option ClockTime := do
  let number (digits : List Char) := Nat.ofDigitChars 10 digits 0
  let (hour, s) ← takeDigits 1 2 s
  let (minute, s) ← takeDigits 2 2 (← takeChar ':' s)
  let (second, s) ← takeDigits 2 2 (← takeChar ':' s)
  let (fraction, s) :=
    match s with
    | '.' :: rest => (rest.takeWhile Char.isDigit, rest.dropWhile Char.isDigit)
    | _ => ([], s)
  let zone ← zone? s
  some { hour := number hour, minute := number minute, second := number second, fraction, zone }

/-- The day and the time that a text writes.  A line end after them does not count. -/
def ofText? (s : List Char) : Option Stamp := do
  let s := if s.getLast? = some '\n' then s.dropLast else s
  let (year, s) ← takeDigits 4 4 s
  let (month, s) ← takeDigits 1 2 (← takeChar '-' s)
  let (day, s) ← takeDigits 1 2 (← takeChar '-' s)
  let stamp : Stamp := { year := Nat.ofDigitChars 10 year 0, month, day }
  match s with
  | [] => some stamp
  | c :: rest =>
    if c = 'T' || c = 't' then (clock? rest).map fun time => { stamp with time := some time }
    else if isGap c then
      (clock? (rest.dropWhile isGap)).map fun time => { stamp with time := some time }
    else none

/-- The microseconds of a fraction of a second; further digits are dropped. -/
def micros (fraction : List Char) : Nat :=
  Nat.ofDigitChars 10 ((fraction ++ List.replicate 6 '0').take 6) 0

def value (s : Stamp) : Except String Value :=
  let month := Nat.ofDigitChars 10 s.month 0
  let day := Nat.ofDigitChars 10 s.day 0
  match s.time with
  | none => (Day.make s.year month day).map Value.day
  | some t =>
    let offset : Option Int := t.zone.map fun (ahead, hours, minutes) =>
      let span : Int := hours * 60 + minutes
      if ahead then -span else span
    (Moment.make s.year month day t.hour t.minute t.second (micros t.fraction) offset).map Value.moment

/-- Whether a plain scalar is a day or a moment.  A day alone has two digits for the month and for
itself. -/
def isPlain (s : List Char) : Bool :=
  match ofText? s with
  | some stamp => stamp.time.isSome || (stamp.month.length = 2 && stamp.day.length = 2)
  | none => false

end Stamp

end LineCensus.Yaml
