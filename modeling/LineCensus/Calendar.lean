import LineCensus.Text.Columns

/-!
# Days and moments

The days and moments of the calendar that a document can hold.  A moment may say how far its clock
is ahead of universal time; then it is the same moment as one by another clock.
-/

namespace LineCensus

structure Day where
  year : Nat
  month : Nat
  day : Nat
  deriving DecidableEq, Repr

namespace Day

def isLeap (year : Nat) : Bool :=
  year % 4 == 0 && (year % 100 != 0 || year % 400 == 0)

def daysIn (year month : Nat) : Nat :=
  if month = 2 then if isLeap year then 29 else 28
  else if [4, 6, 9, 11].contains month then 30
  else 31

def make (year month day : Nat) : Except String Day :=
  if year = 0 then .error "year 0 is out of range"
  else if month = 0 || 12 < month then .error "month must be in 1..12"
  else if day = 0 || daysIn year month < day then .error "day is out of range for month"
  else .ok ⟨year, month, day⟩

def number (d : Day) : Nat :=
  let before := d.year - 1
  let months := (List.range (d.month - 1)).map fun m => daysIn d.year (m + 1)
  365 * before + before / 4 - before / 100 + before / 400 + months.foldl (· + ·) d.day

def text (d : Day) : String :=
  Text.padZeros 4 d.year ++ "-" ++ Text.padZeros 2 d.month ++ "-" ++ Text.padZeros 2 d.day

end Day

/-- A moment, as a clock shows it; `offset` is the number of minutes that the clock is ahead of
universal time. -/
structure Moment where
  day : Day
  hour : Nat
  minute : Nat
  second : Nat
  micro : Nat := 0
  offset : Option Int := none
  deriving DecidableEq, Repr

namespace Moment

def spanText (minutes : Int) : String :=
  let days := minutes / 1440
  let seconds := minutes % 1440 * 60
  let parts := (if days = 0 then [] else [s!"days={days}"]) ++
    (if seconds = 0 then [] else [s!"seconds={seconds}"])
  "datetime.timedelta(" ++ (if parts.isEmpty then "0" else ", ".intercalate parts) ++ ")"

def make (year month day hour minute second micro : Nat) (offset : Option Int) :
    Except String Moment := do
  if offset.any (1440 ≤ ·.natAbs) then
    .error ("offset must be a timedelta strictly between -timedelta(hours=24) and " ++
      s!"timedelta(hours=24), not {spanText (offset.getD 0)}.")
  else
    let day ← Day.make year month day
    if 23 < hour then .error "hour must be in 0..23"
    else if 59 < minute then .error "minute must be in 0..59"
    else if 59 < second then .error "second must be in 0..59"
    else .ok { day, hour, minute, second, micro, offset }

def micros (m : Moment) : Int :=
  let minutes : Int := (m.day.number * 24 + m.hour) * 60 + m.minute
  ((minutes - m.offset.getD 0) * 60 + m.second) * 1000000 + m.micro

/-- Whether two moments are one; a clock that does not say how far it is ahead cannot be compared
with one that does. -/
def isSame (a b : Moment) : Bool :=
  a.offset.isSome == b.offset.isSome && a.micros == b.micros

def offsetText (minutes : Int) : String :=
  (if minutes < 0 then "-" else "+") ++ Text.padZeros 2 (minutes.natAbs / 60) ++ ":" ++
    Text.padZeros 2 (minutes.natAbs % 60)

def text (m : Moment) : String :=
  m.day.text ++ " " ++ Text.padZeros 2 m.hour ++ ":" ++ Text.padZeros 2 m.minute ++ ":" ++
    Text.padZeros 2 m.second ++ (if m.micro = 0 then "" else "." ++ Text.padZeros 6 m.micro) ++
    (m.offset.map offsetText).getD ""

def written (m : Moment) : String :=
  let clock :=
    if m.micro ≠ 0 then [m.hour, m.minute, m.second, m.micro]
    else if m.second ≠ 0 then [m.hour, m.minute, m.second]
    else [m.hour, m.minute]
  let numbers := ([m.day.year, m.day.month, m.day.day] ++ clock).map toString
  let zone := m.offset.toList.map fun minutes =>
    if minutes = 0 then "tzinfo=datetime.timezone.utc"
    else s!"tzinfo=datetime.timezone({spanText minutes})"
  "datetime.datetime(" ++ ", ".intercalate (numbers ++ zone) ++ ")"

end Moment

def Day.written (d : Day) : String :=
  s!"datetime.date({d.year}, {d.month}, {d.day})"

end LineCensus
