import LineCensus.Pattern.Source
import LineCensus.Text.Blank

/-!
# From text to patterns
-/

namespace LineCensus.Pattern

open Source

def digitValue (c : Char) : Nat :=
  if c.isDigit then c.toNat - 48 else c.toLower.toNat - 87

def isHexDigit (c : Char) : Bool :=
  c.isDigit || ('a' ≤ c && c ≤ 'f') || ('A' ≤ c && c ≤ 'F')

def isOctDigit (c : Char) : Bool :=
  '0' ≤ c && c ≤ '7'

def numberOf (base : Nat) (digits : List Char) : Nat :=
  digits.foldl (fun n c => base * n + digitValue c) 0

def controlEscape? (c : Char) : Option Nat :=
  [('a', 7), ('b', 8), ('f', 12), ('n', 10), ('r', 13), ('t', 9), ('v', 11), ('\\', 92)].lookup c

def categoryEscape? (c : Char) : Option Item :=
  [('d', Item.category .digit false), ('D', .category .digit true),
   ('s', .category .space false), ('S', .category .space true),
   ('w', .category .word false), ('W', .category .word true)].lookup c

def placeEscape? (c : Char) : Option Place :=
  [('A', Place.textStart), ('b', .wordEdge), ('B', .noWordEdge), ('Z', .textEnd)].lookup c

def escapeText (c : Char) (digits : List Char) : String :=
  String.ofList ('\\' :: c :: digits)

def hexEscape (c : Char) (width : Nat) : Reads Nat := do
  let digits ← takeWhile isHexDigit width
  if digits.length != width then
    failBack (digits.length + 2) (.incompleteEscape (escapeText c digits))
  else
    let n := numberOf 16 digits
    if n ≥ 0x110000 then failBack (digits.length + 2) (.badEscape (escapeText c digits))
    else return n

def namedEscape (fuel : Nat) : Reads Nat := do
  if !(← takeIf '\x7b') then failBack 0 .noNameBrace
  else
    let name ← takeUntil '\x7d' "character name" fuel []
    failBack (name.length + 4) (.unknownCharacterName (String.ofList name))

def commonEscape? (fuel : Nat) (c : Char) : Option (Reads Nat) :=
  if c = 'x' then some (hexEscape c 2)
  else if c = 'u' then some (hexEscape c 4)
  else if c = 'U' then some (hexEscape c 8)
  else if c = 'N' then some (namedEscape fuel)
  else none

def plainEscape (c : Char) : Reads Nat := do
  if c.isAlpha || c.isDigit then failBack 2 (.badEscape (escapeText c []))
  else return c.toNat

def classEscape (fuel : Nat) (c : Char) : Reads Item := do
  match controlEscape? c, categoryEscape? c, commonEscape? fuel c with
  | some n, _, _ => return .single n
  | none, some item, _ => return item
  | none, none, some escape => return .single (← escape)
  | none, none, none =>
    if isOctDigit c then
      let digits ← takeWhile isOctDigit 2
      let n := numberOf 8 (c :: digits)
      if n > 0o377 then failBack (digits.length + 2) (.octalTooLarge (escapeText c digits))
      else return .single n
    else return .single (← plainEscape c)

/-- Refuses a reference, from within a lookbehind, to a group that begins in it or is open. -/
def checkLookbehind (number : Nat) : Reads Unit := do
  let s ← get
  match s.lookbehind with
  | some limit =>
    if (s.widths.lookup number).isNone then failBack 0 .openGroup
    else if number ≥ limit then failBack 0 .groupWithinLookbehind
    else return
  | none => return

def referenceTo (number length : Nat) : Reads Pattern := do
  let s ← get
  if number < s.groups then
    if (s.widths.lookup number).isNone then failBack length .openGroup
    else
      checkLookbehind number
      return .reference number
  else failBack (length - 1) (.unknownGroup number)

/-- An escape that starts with a digit other than zero: three octal digits are a character, else
it is a reference. -/
def digitEscape (c : Char) : Reads Pattern := do
  let second ← takeWhile Char.isDigit 1
  let third ←
    if isOctDigit c && second.any isOctDigit then takeWhile isOctDigit 1 else pure []
  let digits := c :: second ++ third
  if third.isEmpty then referenceTo (numberOf 10 digits) (digits.length + 1)
  else
    let n := numberOf 8 digits
    if n > 0o377 then
      failBack (digits.length + 1) (.octalTooLarge (escapeText c (digits.drop 1)))
    else return .oneOf false [.single n]

def escape (fuel : Nat) (c : Char) : Reads Pattern := do
  match placeEscape? c, categoryEscape? c, controlEscape? c, commonEscape? fuel c with
  | some place, _, _, _ => return .edge place
  | none, some item, _, _ => return .oneOf false [item]
  | none, none, some n, _ => return .oneOf false [.single n]
  | none, none, none, some escape => return .oneOf false [.single (← escape)]
  | none, none, none, none =>
    if c = '0' then
      let digits ← takeWhile isOctDigit 2
      return .oneOf false [.single (numberOf 8 (c :: digits))]
    else if c.isDigit then digitEscape c
    else return .oneOf false [.single (← plainEscape c)]

def classItem (fuel : Nat) (sign : Sign) : Reads Item :=
  if sign.escaped then classEscape fuel sign.char else return .single sign.char.toNat

def classItems (here : Nat) : (fuel : Nat) → (found : List Item) → Reads (List Item)
  | 0, _ => failAt here .unclosedClass
  | fuel + 1, found => do
    match ← take with
    | none => failAt here .unclosedClass
    | some sign =>
      if sign = ⟨false, ']'⟩ && !found.isEmpty then return found.reverse
      else
        let low ← classItem fuel sign
        if ← takeIf '-' then
          match ← take with
          | none => failAt here .unclosedClass
          | some ⟨false, ']'⟩ => return (.single '-'.toNat :: low :: found).reverse
          | some other =>
            let high ← classItem fuel other
            let fault := failBack (sign.text.length + 1 + other.text.length)
              (.badRange (String.ofList sign.text) (String.ofList other.text))
            match low, high with
            | .single l, .single h =>
              if h < l then fault else classItems here fuel (.range l h :: found)
            | _, _ => fault
        else classItems here fuel (low :: found)

def characterClass (fuel : Nat) : Reads Pattern := do
  let here := (← get).position - 1
  let negated ← takeIf '^'
  let items ← classItems here fuel []
  return .oneOf negated items

/-- The bounds between braces, or nothing if what follows the brace are no bounds. -/
def bounds (fuel : Nat) : Reads (Option (Nat × Option Nat)) := do
  let before ← get
  let here := before.position
  if ← isNext '\x7d' then return none
  else
    let low ← takeWhile Char.isDigit fuel
    let two ← takeIf ','
    let high ← if two then takeWhile Char.isDigit fuel else pure low
    if !(← takeIf '\x7d') then
      set before
      return none
    else
      let least := numberOf 10 low
      let most := if high.isEmpty then none else some (numberOf 10 high)
      if least ≥ 4294967295 || most.any (· ≥ 4294967295) then failAt here .hugeBounds
      else if most.any (· < least) then failAt here .emptyBounds
      else return some (least, most)

def takeGreed : Reads Greed := do
  match ← peek with
  | some ⟨false, '?'⟩ =>
    let _ ← take
    return .lazy
  | some ⟨false, '+'⟩ =>
    let _ ← take
    return .possessive
  | _ => return .greedy

def repeatLast (here : Nat) (low : Nat) (high : Option Nat) (found : List Pattern) :
    Reads (List Pattern) := do
  match found with
  | [] | .edge _ :: _ => failAt here .nothingToRepeat
  | .repeated .. :: _ => failAt here .repeatedRepeat
  | last :: others =>
    let greed ← takeGreed
    return .repeated low high greed last :: others

/-- The mode of a letter; the second flag says that it is one of the whole pattern. -/
def modeOf? (c : Char) : Option (Modes × Bool) :=
  [('i', ({ ignoreCase := true }, false)), ('m', ({ multiLine := true }, false)),
   ('s', ({ dotAll := true }, false)), ('x', ({ verbose := true }, false)),
   ('a', ({ ascii := true }, false)), ('u', ({}, false)), ('L', ({}, false)),
   ('t', (({} : Modes), true))].lookup c

/-- Letters that choose an alphabet. -/
def isAlphabetMode (c : Char) : Bool :=
  c == 'a' || c == 'u' || c == 'L'

def Modes.or (a b : Modes) : Modes where
  ignoreCase := a.ignoreCase || b.ignoreCase
  multiLine := a.multiLine || b.multiLine
  dotAll := a.dotAll || b.dotAll
  ascii := a.ascii || b.ascii
  verbose := a.verbose || b.verbose

def isLetter (c : Char) : Bool :=
  c.isAlpha || c.toNat ≥ 0x80

def noMode (sign : Sign) (otherwise : Cause) : Reads Unit :=
  failBack sign.text.length
    (if !sign.escaped && isLetter sign.char then .unknownMode else otherwise)

/-- The letters of modes, from `first`, up to a token that ends them; that token comes with
them. -/
def modeLetters (ends : List Char) (unfinished : Cause) (check : Char → List Char → Reads Unit) :
    (fuel : Nat) → (letters : List Char) → Reads (List Char × Char)
  | 0, letters => return (letters, ':')
  | fuel + 1, letters => do
    check (letters.headD ' ') letters.tail
    match ← take with
    | none => failBack 0 unfinished
    | some sign =>
      if !sign.escaped && ends.contains sign.char then return (letters, sign.char)
      else if !sign.escaped && (modeOf? sign.char).isSome then
        modeLetters ends unfinished check fuel (sign.char :: letters)
      else
        noMode sign unfinished
        return (letters, ':')

def checkOn (c : Char) (earlier : List Char) : Reads Unit := do
  if c = 'L' then failBack 0 .localeMode
  else if isAlphabetMode c && earlier.any (fun e => isAlphabetMode e && e != c) then
    failBack 0 .mixedAlphabets
  else return

def checkOff (c : Char) (_ : List Char) : Reads Unit := do
  if isAlphabetMode c then failBack 0 .offAlphabet else return

def modesOf (letters : List Char) : Modes :=
  letters.foldl (fun m c => m.or (((modeOf? c).map Prod.fst).getD {})) {}

def offLetters (fuel : Nat) : Reads (List Char) := do
  match ← take with
  | none => failBack 0 .noModeAfterDash
  | some sign =>
    if !sign.escaped && (modeOf? sign.char).isSome then
      let (letters, _) ← modeLetters [':'] .noColonAfterModes checkOff fuel [sign.char]
      return letters
    else
      noMode sign .noModeAfterDash
      return []

/-- The modes after a question mark, from their first letter: nothing if they are for the whole
pattern, else what is switched on and off. -/
def modeChange (fuel : Nat) (first : Char) : Reads (Option (Modes × Modes)) := do
  let (on, stop) ←
    if first = '-' then pure ([], '-')
    else modeLetters [')', '-', ':'] .modesUnfinished checkOn fuel [first]
  if stop = ')' then
    modify fun s => { s with modes := s.modes.or (modesOf on) }
    return none
  else if on.contains 't' then failBack 1 .globalModeOn
  else
    let off ← if stop = '-' then offLetters fuel else pure []
    if off.contains 't' then failBack 1 .globalModeOff
    else if on.any (off.contains ·) then failBack 1 .modeOnAndOff
    else return some (modesOf on, modesOf off)

def isName (name : List Char) : Bool :=
  match name with
  | [] => false
  | c :: rest => (isLetter c || c == '_') && rest.all fun c => isLetter c || c.isDigit || c == '_'

def groupName (terminator : Char) (fuel : Nat) : Reads String := do
  let name ← takeUntil terminator "group name" fuel []
  if isName name then return String.ofList name
  else failBack (name.length + 1) (.badName (String.ofList name))

def numberOfName (name : String) : Reads Nat := do
  match (← get).names.find? name with
  | some number => return number
  | none => failBack (name.length + 1) (.unknownName name)

def namedReference (fuel : Nat) : Reads Pattern := do
  let name ← groupName ')' fuel
  let number ← numberOfName name
  if ((← get).widths.lookup number).isNone then failBack (name.length + 1) .openGroup
  else
    checkLookbehind number
    return .reference number

def condition (fuel : Nat) : Reads Nat := do
  let name ← takeUntil ')' "group name" fuel []
  if isName name then numberOfName (String.ofList name)
  else
    let digits := Text.trim name
    if digits.isEmpty || !digits.all Char.isDigit then
      failBack (name.length + 1) (.badName (String.ofList name))
    else
      let number := numberOf 10 digits
      if number = 0 then failBack (name.length + 1) .groupZero
      else
        let s ← get
        if (s.expected.lookup number).isNone then
          set { s with expected := s.expected ++ [(number, s.position - name.length - 1)] }
        return number

def beginGroup (name : Option String) : Reads Nat := do
  let s ← get
  let number := s.groups
  match name with
  | none =>
    set { s with groups := number + 1 }
    return number
  | some name =>
    match s.names.find? name with
    | some earlier => failBack (name.length + 1) (.repeatedName name number earlier)
    | none =>
      set { s with groups := number + 1, names := s.names.set name number }
      return number

def endGroup (number : Nat) (body : Pattern) : Reads Unit :=
  modify fun s => { s with widths := (number, body.width s.widths) :: s.widths }

def skipComment (here : Nat) : (fuel : Nat) → Reads Unit
  | 0 => failAt here .unclosedComment
  | fuel + 1 => do
    match ← peek with
    | none => failAt here .unclosedComment
    | some sign =>
      let _ ← take
      if sign = ⟨false, ')'⟩ then return else skipComment here fuel

def skipLine : (fuel : Nat) → Reads Unit
  | 0 => return
  | fuel + 1 => do
    match ← take with
    | none => return
    | some sign => if sign = ⟨false, '\n'⟩ then return else skipLine fuel

def isVerboseSpace (sign : Sign) : Bool :=
  !sign.escaped && " \t\n\r\x0b\x0c".toList.contains sign.char

def closeGroup (here : Nat) : Reads Unit := do
  if ← takeIf ')' then return else failAt here .unclosedGroup

mutual

/-- Branches; `nested` says that they stand within a group, `verbose` that spaces do not count. -/
def branches (nested verbose : Bool) (fuel : Nat) : Reads Pattern :=
  match fuel with
  | 0 => return .empty
  | fuel + 1 => do
    let first ← items verbose (!nested) fuel []
    moreBranches nested verbose first fuel
termination_by structural fuel

def moreBranches (nested verbose : Bool) (first : Pattern) (fuel : Nat) : Reads Pattern :=
  match fuel with
  | 0 => return first
  | fuel + 1 => do
    if ← takeIf '|' then
      let s ← get
      let verbose := if nested then verbose else s.modes.verbose
      let second ← items verbose false fuel []
      let rest ← moreBranches nested verbose second fuel
      return .alt first rest
    else return first
termination_by structural fuel

/-- Patterns one after the other, up to the end of a branch; `leading` says that modes for the
whole pattern may stand in front. -/
def items (verbose leading : Bool) (fuel : Nat) (found : List Pattern) : Reads Pattern :=
  match fuel with
  | 0 => return sequence found.reverse
  | fuel + 1 => do
    match ← peek with
    | none => return sequence found.reverse
    | some sign =>
      if sign = ⟨false, '|'⟩ || sign = ⟨false, ')'⟩ then return sequence found.reverse
      else
        let _ ← take
        if sign.escaped then
          let p ← escape fuel sign.char
          items verbose leading fuel (p :: found)
        else if verbose && isVerboseSpace sign then items verbose leading fuel found
        else if verbose && sign.char = '#' then
          skipLine fuel
          items verbose leading fuel found
        else special verbose leading fuel found sign.char
termination_by structural fuel

def special (verbose leading : Bool) (fuel : Nat) (found : List Pattern) (c : Char) :
    Reads Pattern :=
  match fuel with
  | 0 => return sequence found.reverse
  | fuel + 1 => do
    let here := (← get).position
    let next (p : Pattern) := items verbose leading fuel (p :: found)
    if c = '[' then next (← characterClass fuel)
    else if c = '.' then next .any
    else if c = '^' then next (.edge .lineStart)
    else if c = '$' then next (.edge .lineEnd)
    else if c = '*' then do
      let found ← repeatLast (here - 1) 0 none found
      items verbose leading fuel found
    else if c = '+' then do
      let found ← repeatLast (here - 1) 1 none found
      items verbose leading fuel found
    else if c = '?' then do
      let found ← repeatLast (here - 1) 0 (some 1) found
      items verbose leading fuel found
    else if c = '\x7b' then do
      match ← bounds fuel with
      | some (low, high) =>
        let found ← repeatLast (here - 1) low high found
        items verbose leading fuel found
      | none => next (char c)
    else if c = '(' then do
      match ← parenthesis verbose (leading && found.isEmpty) (here - 1) fuel with
      | some (p, verbose) => items verbose leading fuel (p.toList ++ found)
      | none => items verbose leading fuel found
    else next (char c)
termination_by structural fuel

/-- What an opening parenthesis at `here` begins: nothing if it is a comment; else a pattern, or
modes for the whole, which may make the rest verbose. -/
def parenthesis (verbose leading : Bool) (here : Nat) (fuel : Nat) :
    Reads (Option (Option Pattern × Bool)) :=
  match fuel with
  | 0 => return none
  | fuel + 1 => do
    if !(← takeIf '?') then
      let p ← captured verbose none here fuel
      return some (some p, verbose)
    else
      match ← take with
      | none => failBack 0 .endAfterQuestionMark
      | some sign =>
        let unknown := failBack (sign.text.length + 1)
          (.unknownExtension (String.ofList sign.text))
        if sign.escaped then unknown
        else if sign.char = '#' then
          skipComment here fuel
          return none
        else if (modeOf? sign.char).isSome || sign.char = '-' then
          match ← modeChange fuel sign.char with
          | none =>
            if !leading then failAt here .lateModes
            else return some (none, (← get).modes.verbose)
          | some (on, off) =>
            let body ← branches true ((verbose || on.verbose) && !off.verbose) fuel
            closeGroup here
            let p := if on = {} && off = {} then body else .inModes on off body
            return some (some (.seq p .empty), verbose)
        else
          match ← extension verbose here sign.char fuel with
          | some p => return some (some p, verbose)
          | none => unknown
termination_by structural fuel

def extension (verbose : Bool) (here : Nat) (c : Char) (fuel : Nat) :
    Reads (Option Pattern) :=
  match fuel with
  | 0 => return none
  | fuel + 1 => do
    if c = ':' then
      let body ← branches true verbose fuel
      closeGroup here
      return some (.seq body .empty)
    else if c = '>' then
      let body ← branches true verbose fuel
      closeGroup here
      return some (.atomic body)
    else if c = '=' || c = '!' then
      let body ← branches true verbose fuel
      closeGroup here
      return some (.ahead (c == '!') body)
    else if c = '<' then
      match ← take with
      | none => failBack 0 .endAfterQuestionMark
      | some sign =>
        if sign = ⟨false, '='⟩ || sign = ⟨false, '!'⟩ then
          return some (← lookbehind verbose here (sign.char == '!') fuel)
        else
          failBack (sign.text.length + 2) (.unknownExtension (String.ofList ('<' :: sign.text)))
    else if c = 'P' then
      if ← takeIf '<' then
        let name ← groupName '>' fuel
        return some (← captured verbose (some name) here fuel)
      else if ← takeIf '=' then return some (← namedReference fuel)
      else
        match ← take with
        | none => failBack 0 .endAfterQuestionMark
        | some sign =>
          failBack (sign.text.length + 2) (.unknownExtension (String.ofList ('P' :: sign.text)))
    else if c = '(' then return some (← conditional verbose here fuel)
    else return none
termination_by structural fuel

def captured (verbose : Bool) (name : Option String) (here fuel : Nat) :
    Reads Pattern :=
  match fuel with
  | 0 => return .empty
  | fuel + 1 => do
    let number ← beginGroup name
    let body ← branches true verbose fuel
    closeGroup here
    endGroup number body
    return .group number body
termination_by structural fuel

/-- A lookbehind.  The width is settled when the whole pattern is known to be well-formed. -/
def lookbehind (verbose : Bool) (here : Nat) (negated : Bool) (fuel : Nat) : Reads Pattern :=
  match fuel with
  | 0 => return .empty
  | fuel + 1 => do
    let outer := (← get).lookbehind
    if outer.isNone then modify fun s => { s with lookbehind := some s.groups }
    let body ← branches true verbose fuel
    if outer.isNone then modify fun s => { s with lookbehind := none }
    closeGroup here
    return .behind negated (body.width (← get).widths).1 body
termination_by structural fuel

def conditional (verbose : Bool) (here : Nat) (fuel : Nat) : Reads Pattern :=
  match fuel with
  | 0 => return .empty
  | fuel + 1 => do
    let number ← condition fuel
    checkLookbehind number
    let yes ← items verbose false fuel []
    let no ←
      if ← takeIf '|' then
        let no ← items verbose false fuel []
        if ← isNext '|' then failBack 0 .thirdBranch else pure no
      else pure .empty
    closeGroup here
    return .ifGroup number yes no
termination_by structural fuel

end

def hasFixedLookbehinds (widths : List (Nat × Nat × Nat)) : Pattern → Bool
  | empty | oneOf .. | any | edge _ | reference _ => true
  | seq a b | alt a b | ifGroup _ a b =>
    a.hasFixedLookbehinds widths && b.hasFixedLookbehinds widths
  | repeated _ _ _ body | group _ body | inModes _ _ body | atomic body | ahead _ body =>
    body.hasFixedLookbehinds widths
  | behind _ _ body =>
    let (low, high) := body.width widths
    low == high && body.hasFixedLookbehinds widths

/-- A pattern and the modes that hold for all of it. -/
structure Compiled where
  pattern : Pattern
  modes : Modes
  deriving DecidableEq, Repr

def wholePattern (fuel : Nat) : Reads Compiled := do
  let pattern ← branches false false fuel
  let s ← get
  if s.next.isSome then failBack 0 .unopenedGroup
  else
    match s.expected.find? (fun (number, _) => number ≥ s.groups) with
    | some (number, position) => failAt position (.unknownGroup number)
    | none =>
      if pattern.hasFixedLookbehinds s.widths then return ⟨pattern, s.modes⟩
      else throw ⟨.looseLookbehind, s.whole, none⟩

def parse (text : List Char) : Except Fault Compiled := do
  let source ← Source.start text
  let (compiled, _) ← (wholePattern (6 * text.length + 8)).run source
  return compiled

end LineCensus.Pattern
