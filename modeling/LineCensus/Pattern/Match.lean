import LineCensus.Pattern.Basic
import LineCensus.Text.Blank
import LineCensus.Text.Case
import LineCensus.Text.Digit
import LineCensus.Text.Word

/-!
# Matching

A pattern is matched at a place by trying its alternatives in order.  What follows the pattern is
given as a function, which says whether the rest matches at the place that was reached.
-/

namespace LineCensus.Pattern

/-- A place in a text: the characters before it, nearest first, their number, the characters after
it, and the texts of the groups matched so far, latest first. -/
structure Spot where
  before : List Char
  position : Nat
  after : List Char
  groups : List (Nat × List Char) := []

namespace Spot

def next? (s : Spot) : Option (Char × Spot) :=
  match s.after with
  | [] => none
  | c :: rest =>
    some (c, { s with before := c :: s.before, position := s.position + 1, after := rest })

def back? (s : Spot) : Nat → Option Spot
  | 0 => some s
  | n + 1 =>
    match s.before with
    | [] => none
    | c :: rest =>
      { s with before := rest, position := s.position - 1, after := c :: s.after }.back? n

def past? (s : Spot) (ignoreCase : Bool) : List Char → Option Spot
  | [] => some s
  | c :: rest =>
    match s.next? with
    | some (d, s) =>
      if c = d || (ignoreCase && Text.lowerChar c = Text.lowerChar d) then s.past? ignoreCase rest
      else none
    | none => none

end Spot

def Category.holds (ascii : Bool) (category : Category) (c : Char) : Bool :=
  match category with
  | .digit => if ascii then c.isDigit else Text.isDigit c
  | .space => if ascii then " \t\n\r\x0b\x0c".toList.contains c else Text.isBlank c
  | .word => if ascii then c.isAlphanum || c == '_' else Text.isWord c

def Item.holds (m : Modes) (item : Item) (c : Char) : Bool :=
  match item with
  | .single n => c.toNat == n
  | .range low high => low ≤ c.toNat && c.toNat ≤ high
  | .category named negated => named.holds m.ascii c != negated

def foreignVariants (c : Char) : List Nat :=
  match c.toLower with
  | 'i' => [0x130, 0x131]
  | 'k' => [0x212a]
  | 's' => [0x17f]
  | _ => []

/-- The numbers that are the same letter as the character: those whose lower-case form is in its
family. -/
def variants (c : Char) : List Nat :=
  if c.toNat < 0x80 then c.toLower.toNat :: c.toUpper.toNat :: foreignVariants c
  else (Text.caseFamily (Text.lowerChar c).toNat).flatMap Text.lowerPreimages

def Item.admits (m : Modes) (item : Item) (c : Char) : Bool :=
  if m.ignoreCase then
    match item with
    | .category named negated => named.holds m.ascii (Text.lowerChar c) != negated
    | item =>
      (if m.ascii then [c.toNat, c.toLower.toNat, c.toUpper.toNat] else variants c).any fun n =>
        item.holds m (Char.ofNat n)
  else item.holds m c

def admits (m : Modes) (negated : Bool) (items : List Item) (c : Char) : Bool :=
  items.any (·.admits m c) != negated

/-- The test of a pattern that takes exactly one character. -/
def unit? (m : Modes) : Pattern → Option (Char → Bool)
  | oneOf negated items => some (admits m negated items)
  | any => some fun c => m.dotAll || c != '\n'
  | seq p empty => p.unit? m
  | _ => none

def isWordChar (m : Modes) (c : Char) : Bool :=
  Category.word.holds m.ascii c

def atWordEdge (m : Modes) (s : Spot) : Bool :=
  s.before.head?.any (isWordChar m) != s.after.head?.any (isWordChar m)

def Place.holds (m : Modes) (place : Place) (s : Spot) : Bool :=
  match place with
  | .lineStart => s.before.isEmpty || (m.multiLine && s.before.head? == some '\n')
  | .lineEnd =>
    s.after.isEmpty || s.after == ['\n'] || (m.multiLine && s.after.head? == some '\n')
  | .textStart => s.before.isEmpty
  | .textEnd => s.after.isEmpty
  | .wordEdge => atWordEdge m s
  | .noWordEdge => !(s.before.isEmpty && s.after.isEmpty) && !atWordEdge m s

/-- What follows a pattern. -/
abbrev Rest := Spot → Option Spot

/-- Takes characters with the property, at most so many; the places on the way come out with the
last one first, `found` being those before. -/
def stepsWhile (p : Char → Bool) (groups : List (Nat × List Char)) (most : Option Nat)
    (found : List Spot) (before : List Char) (position : Nat) : (after : List Char) → List Spot
  | [] => ⟨before, position, [], groups⟩ :: found
  | c :: rest =>
    let found := ⟨before, position, c :: rest, groups⟩ :: found
    if most != some 0 && p c then
      stepsWhile p groups (most.map (· - 1)) found (c :: before) (position + 1) rest
    else found

def repeatUnit (p : Char → Bool) (low : Nat) (high : Option Nat) (greed : Greed) (rest : Rest)
    (s : Spot) : Option Spot :=
  let places := stepsWhile p s.groups high [] s.before s.position s.after
  if places.length ≤ low then none
  else
    let choices := places.take (places.length - low)
    match greed with
    | .greedy => choices.findSome? rest
    | .lazy => choices.reverse.findSome? rest
    | .possessive => choices.head?.bind rest

/-- Repeats a pattern: `count` are done, the last optional one from the position `last`.  An
optional repetition that starts where the one before it started is not tried. -/
def repeatFrom (body : Rest → Rest) (low : Nat) (high : Option Nat) (greed : Greed) (rest : Rest)
    (fuel : Nat) (count : Nat) (last : Option Nat) (s : Spot) : Option Spot :=
  match fuel with
  | 0 => rest s
  | fuel + 1 =>
    if count < low then body (repeatFrom body low high greed rest fuel (count + 1) last) s
    else
      let again (s : Spot) : Option Spot :=
        if high.all (count < ·) && last != some s.position then
          body (repeatFrom body low high greed rest fuel (count + 1) (some s.position)) s
        else none
      match greed with
      | .lazy => (rest s).or (again s)
      | _ => (again s).or (rest s)

def run (m : Modes) (p : Pattern) (rest : Rest) (s : Spot) : Option Spot :=
  match p with
  | empty => rest s
  | oneOf negated items =>
    match s.next? with
    | some (c, next) => if admits m negated items c then rest next else none
    | none => none
  | any =>
    match s.next? with
    | some (c, next) => if m.dotAll || c != '\n' then rest next else none
    | none => none
  | edge place => if place.holds m s then rest s else none
  | seq a b => a.run m (b.run m rest) s
  | alt a b => (a.run m rest s).or (b.run m rest s)
  | repeated low high greed body =>
    match body.unit? m with
    | some p => repeatUnit p low high greed rest s
    | none =>
      let fuel :=
        match high with
        | some high => high + 1
        | none => low + s.after.length + 1
      match greed with
      | .possessive => (repeatFrom (body.run m) low high .greedy some fuel 0 none s).bind rest
      | greed => repeatFrom (body.run m) low high greed rest fuel 0 none s
  | group number body =>
    body.run m (fun t =>
      let taken := t.before.take (t.position - s.position)
      rest { t with groups := (number, taken.reverse) :: t.groups }) s
  | inModes on off body => body.run (m.switch on off) rest s
  | atomic body => (body.run m some s).bind rest
  | reference number =>
    match s.groups.lookup number with
    | some text => (s.past? m.ignoreCase text).bind rest
    | none => none
  | ahead negated body =>
    match body.run m some s, negated with
    | some t, false => rest { s with groups := t.groups }
    | none, true => rest s
    | _, _ => none
  | behind negated width body =>
    match (s.back? width).bind (body.run m some), negated with
    | some t, false => rest { s with groups := t.groups }
    | none, true => rest s
    | _, _ => none
  | ifGroup number yes no =>
    if (s.groups.lookup number).isSome then yes.run m rest s else no.run m rest s

def searchFrom (m : Modes) (p : Pattern) (before : List Char) (position : Nat) :
    (after : List Char) → Bool
  | [] => (p.run m some ⟨before, position, [], []⟩).isSome
  | c :: rest =>
    (p.run m some ⟨before, position, c :: rest, []⟩).isSome ||
      searchFrom m p (c :: before) (position + 1) rest

def found (m : Modes) (p : Pattern) (text : List Char) : Bool :=
  searchFrom m p [] 0 text

end LineCensus.Pattern
