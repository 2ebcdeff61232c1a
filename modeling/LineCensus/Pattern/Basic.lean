import LineCensus.Number.Power

/-!
# Patterns

Regular expressions with groups, back references, lookaround, and greedy, lazy and possessive
repetition.  Letter case, the meaning of line ends, and the alphabet of the classes are settled by
modes, which a part of a pattern may change for itself.
-/

namespace LineCensus

namespace Pattern

structure Modes where
  ignoreCase : Bool := false
  multiLine : Bool := false
  dotAll : Bool := false
  ascii : Bool := false
  verbose : Bool := false
  deriving DecidableEq, Repr

inductive Category where
  | digit
  | space
  | word
  deriving DecidableEq, Repr

/-- An item of a character class; characters are given by number. -/
inductive Item where
  | single (n : Nat)
  | range (low high : Nat)
  | category (c : Category) (negated : Bool)
  deriving DecidableEq, Repr

inductive Place where
  /-- The start of the text, or of a line in multi-line mode. -/
  | lineStart
  /-- The end of the text or the place before its last line end, or the end of any line in
  multi-line mode. -/
  | lineEnd
  | textStart
  | textEnd
  | wordEdge
  | noWordEdge
  deriving DecidableEq, Repr

inductive Greed where
  | greedy
  | lazy
  /-- As often as possible, whatever the rest needs. -/
  | possessive
  deriving DecidableEq, Repr

end Pattern

inductive Pattern where
  | empty
  | oneOf (negated : Bool) (items : List Pattern.Item)
  | any
  | edge (place : Pattern.Place)
  | seq (first second : Pattern)
  | alt (first second : Pattern)
  | repeated (low : Nat) (high : Option Nat) (greed : Pattern.Greed) (body : Pattern)
  | group (number : Nat) (body : Pattern)
  | inModes (on off : Pattern.Modes) (body : Pattern)
  | atomic (body : Pattern)
  | reference (number : Nat)
  /-- The body matches at this place, or, when `negated`, does not. -/
  | ahead (negated : Bool) (body : Pattern)
  /-- The body, which takes `width` characters, ends at this place, or, when `negated`, does not. -/
  | behind (negated : Bool) (width : Nat) (body : Pattern)
  /-- The first branch if the group has matched, else the second. -/
  | ifGroup (number : Nat) (yes no : Pattern)
  deriving DecidableEq, Repr

namespace Pattern

def char (c : Char) : Pattern :=
  .oneOf false [.single c.toNat]

def sequence (ps : List Pattern) : Pattern :=
  ps.foldr .seq .empty

def Modes.switch (m on off : Modes) : Modes where
  ignoreCase := (m.ignoreCase || on.ignoreCase) && !off.ignoreCase
  multiLine := (m.multiLine || on.multiLine) && !off.multiLine
  dotAll := (m.dotAll || on.dotAll) && !off.dotAll
  ascii := m.ascii || on.ascii
  verbose := (m.verbose || on.verbose) && !off.verbose

/-- A number of characters that stands for any larger one, too. -/
def widthLimit : Nat := Number.twoTo 64

/-- The least and the greatest number of characters that a pattern can take, given those of the
groups that it refers to. -/
def width (groups : List (Nat × Nat × Nat)) : Pattern → Nat × Nat
  | empty | edge _ | ahead .. | behind .. => (0, 0)
  | oneOf .. | any => (1, 1)
  | seq a b =>
    let (l, h) := a.width groups
    let (l', h') := b.width groups
    (min (l + l') widthLimit, min (h + h') widthLimit)
  | alt a b =>
    let (l, h) := a.width groups
    let (l', h') := b.width groups
    (min l l', max h h')
  | repeated low high _ body =>
    let (l, h) := body.width groups
    let most :=
      match high with
      | some n => h * n
      | none => if h = 0 then 0 else widthLimit
    (min (l * low) widthLimit, min most widthLimit)
  | group _ body | inModes _ _ body | atomic body => body.width groups
  | reference n => (groups.lookup n).getD (0, 0)
  | ifGroup _ yes no =>
    let (l, h) := yes.width groups
    let (l', h') := no.width groups
    (min l l', max h h')

end Pattern

end LineCensus
