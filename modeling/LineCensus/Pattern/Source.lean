import LineCensus.Pattern.Basic
import LineCensus.Pattern.Fault
import LineCensus.Table

/-!
# Reading a pattern

A pattern is read by tokens: a character, or a backslash with the character after it.  One token is
always looked at ahead.
-/

namespace LineCensus.Pattern

structure Sign where
  escaped : Bool
  char : Char
  deriving DecidableEq, Repr

def Sign.text (s : Sign) : List Char :=
  if s.escaped then ['\\', s.char] else [s.char]

/-- A pattern in the course of being read: the next token, the characters after it, and how many
there are up to there; the numbers, widths and names of the groups so far; the groups that were
there before the outermost lookbehind around this place; and the groups asked for ahead of time,
with the positions where they are. -/
structure Source where
  whole : List Char
  next : Option Sign
  rest : List Char
  index : Nat
  groups : Nat := 1
  widths : List (Nat × Nat × Nat) := []
  names : Table Nat := []
  lookbehind : Option Nat := none
  expected : List (Nat × Nat) := []
  modes : Modes := {}

abbrev Reads := StateT Source (Except Fault)

namespace Source

def lookAhead (whole rest : List Char) (index : Nat) :
    Except Fault (Option Sign × List Char × Nat) :=
  match rest with
  | [] => .ok (none, [], index)
  | ['\\'] => .error ⟨.finalBackslash, whole, some (whole.length - 1)⟩
  | '\\' :: c :: rest => .ok (some ⟨true, c⟩, rest, index + 2)
  | c :: rest => .ok (some ⟨false, c⟩, rest, index + 1)

def start (whole : List Char) : Except Fault Source := do
  let (next, rest, index) ← lookAhead whole whole 0
  .ok { whole, next, rest, index }

def position (s : Source) : Nat :=
  s.index - (s.next.map (·.text.length)).getD 0

def failBack {α : Type} (offset : Nat) (cause : Cause) : Reads α := do
  let s ← get
  throw ⟨cause, s.whole, some (s.position - offset)⟩

def failAt {α : Type} (position : Nat) (cause : Cause) : Reads α := do
  let s ← get
  throw ⟨cause, s.whole, some position⟩

def take : Reads (Option Sign) := do
  let s ← get
  let (next, rest, index) ← lookAhead s.whole s.rest s.index
  set { s with next, rest, index }
  return s.next

def peek : Reads (Option Sign) := do
  return (← get).next

def isNext (c : Char) : Reads Bool := do
  return (← get).next == some ⟨false, c⟩

def takeIf (c : Char) : Reads Bool := do
  if ← isNext c then
    let _ ← take
    return true
  else return false

def takeWhile (p : Char → Bool) : (limit : Nat) → Reads (List Char)
  | 0 => return []
  | limit + 1 => do
    match ← peek with
    | some ⟨false, c⟩ =>
      if p c then
        let _ ← take
        return c :: (← takeWhile p limit)
      else return []
    | _ => return []

/-- Takes the characters up to a terminator, and the terminator; there must be some. -/
def takeUntil (terminator : Char) (what : String) : (fuel : Nat) → (found : List Char) →
    Reads (List Char)
  | 0, found => return found
  | fuel + 1, found => do
    match ← take with
    | none =>
      if found.isEmpty then failBack 0 (.noName what)
      else failBack found.length (.unclosedName terminator)
    | some sign =>
      if sign = ⟨false, terminator⟩ then
        if found.isEmpty then failBack 1 (.noName what) else return found
      else takeUntil terminator what fuel (found ++ sign.text)

end Source

end LineCensus.Pattern
