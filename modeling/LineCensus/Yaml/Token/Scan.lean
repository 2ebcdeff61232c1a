import LineCensus.Text.Utf8
import LineCensus.Yaml.Number
import LineCensus.Yaml.Quote
import LineCensus.Yaml.Token

/-!
# From a YAML text to tokens

Indentation opens and closes block collections.  A scalar, an alias or a collection may turn out
to be a key when a colon follows it on the same line, so its place among the tokens is kept until
then.
-/

namespace LineCensus.Yaml

/-- A token that a colon would make a key: its number, whether it has to be one, and where it
starts. -/
structure PossibleKey where
  number : Nat
  required : Bool
  start : Cursor

structure Scanner where
  cursor : Cursor
  tokens : Array Token := #[]
  /-- How many brackets and braces are open. -/
  flow : Nat := 0
  /-- The column of the innermost block collection. -/
  indent : Int := -1
  /-- The columns around it, innermost first. -/
  outer : List Int := []
  /-- Whether a key may start here. -/
  keyAllowed : Bool := true
  /-- The possible keys, by the number of open brackets and braces. -/
  keys : List (Nat × PossibleKey) := []

namespace Scanner

def isNameChar (c : Char) : Bool :=
  c.isAlphanum || c == '-' || c == '_'

def keyLimit : Nat := 1024

def push (s : Scanner) (t : Token) : Scanner :=
  { s with tokens := s.tokens.push t }

def take (s : Scanner) (n : Nat) (t : Token) : Scanner :=
  { s with tokens := s.tokens.push t, cursor := s.cursor.skip n }

/-- Gives up possible keys that ended lines ago or too many characters ago. -/
def dropStaleKeys (s : Scanner) : Except Error Scanner :=
  let stale (k : PossibleKey) : Bool :=
    k.start.line != s.cursor.line || s.cursor.index - k.start.index > keyLimit
  if s.keys.any fun (_, k) => stale k && k.required then .error (.malformed .keyWithoutColon)
  else .ok { s with keys := s.keys.filter fun (_, k) => !stale k }

def dropKey (s : Scanner) : Except Error Scanner :=
  match s.keys.lookup s.flow with
  | some k =>
    if k.required then .error (.malformed .keyWithoutColon)
    else .ok { s with keys := s.keys.filter (·.1 != s.flow) }
  | none => .ok s

/-- Notes that the next token may be a key. -/
def saveKey (s : Scanner) : Except Error Scanner :=
  if !s.keyAllowed then .ok s
  else do
    let s ← s.dropKey
    let required := s.flow == 0 && s.indent == s.cursor.column
    .ok { s with keys := (s.flow, ⟨s.tokens.size, required, s.cursor⟩) :: s.keys }

/-- Ends the block collections that are deeper than the column; `levels` bounds their number. -/
def unwindFrom (levels : List Int) (s : Scanner) (column : Int) : Scanner :=
  match levels with
  | [] => s
  | around :: levels =>
    if s.indent > column then
      unwindFrom levels { s.push .blockEnd with indent := around, outer := levels } column
    else s

def unwind (s : Scanner) (column : Int) : Scanner :=
  if s.flow > 0 then s else unwindFrom s.outer s column

/-- Starts a block collection at the column, unless one starts there already; its token goes to
the place `number`. -/
def openBlock (s : Scanner) (column : Int) (number : Nat) (t : Token) : Scanner :=
  if s.indent < column then
    { s with
      indent := column
      outer := s.indent :: s.outer
      tokens := s.tokens.insertIdxIfInBounds number t }
  else s

def skipToToken (fuel : Nat) (s : Scanner) : Scanner :=
  match fuel with
  | 0 => s
  | fuel + 1 =>
    let c := s.cursor.dropWhile (· == ' ')
    let c := if c.peek == '#' then c.dropWhile (!endsLine ·) else c
    match c.takeBreak with
    | (some _, c) => skipToToken fuel { s with cursor := c, keyAllowed := s.keyAllowed || s.flow == 0 }
    | (none, c) => { s with cursor := c }

def takeNumber (c : Cursor) : Except Error (Nat × Cursor) :=
  match c.takeWhile Char.isDigit with
  | ([], _) => .error (.malformed .badDirective)
  | (digits, c) => (Scalar.numberOf digits).map (·, c)

def isUriChar (c : Char) : Bool :=
  c.isAlphanum || "-;/?:@&=+$,_.!~*'()[]%".toList.contains c

/-- Takes a handle, with its exclamation marks; a space may stand for the name and the second
mark. -/
def takeHandle (fault : Fault) (c : Cursor) : Except Error (String × Cursor) :=
  let (name, after) := c.next.takeWhile isNameChar
  if c.peek != '!' then .error (.malformed fault)
  else if c.peekAt 1 == ' ' then .ok ("!", c.next)
  else if after.peek == '!' then .ok (String.ofList ('!' :: name ++ ['!']), after.next)
  else .error (.malformed fault)

def uriBytes? : List Char → Option (List UInt8)
  | [] => some []
  | '%' :: a :: b :: rest => do
    let high ← hexValue? a
    let low ← hexValue? b
    (uriBytes? rest).map (UInt8.ofNat (16 * high + low) :: ·)
  | c :: rest => if c == '%' then none else (uriBytes? rest).map (UInt8.ofNat c.toNat :: ·)

def takeUri (fault : Fault) (c : Cursor) : Except Error (String × Cursor) :=
  match c.takeWhile isUriChar with
  | ([], _) => .error (.malformed fault)
  | (chars, c) =>
    match (uriBytes? chars).map Text.Utf8.decode with
    | some (.ok text) => .ok (String.ofList text, c)
    | _ => .error (.malformed fault)

def takeDirectiveRest (name : String) (c : Cursor) : Except Error (Directive × Cursor) :=
  if name = "YAML" then do
    let (major, c) ← takeNumber (c.dropWhile (· == ' '))
    if c.peek != '.' then .error (.malformed .badDirective)
    else
      let (minor, c) ← takeNumber c.next
      if endsWord c.peek then .ok (.version major minor, c) else .error (.malformed .badDirective)
  else if name = "TAG" then do
    let (handle, c) ← takeHandle .badDirective (c.dropWhile (· == ' '))
    if c.peek != ' ' then .error (.malformed .badDirective)
    else
      let (uri, c) ← takeUri .badDirective (c.dropWhile (· == ' '))
      if endsWord c.peek then .ok (.tag handle uri, c) else .error (.malformed .badDirective)
  else .ok (.other, c.dropWhile (!endsLine ·))

def scanDirective (s : Scanner) : Except Error Scanner := do
  let s ← (s.unwind (-1)).dropKey
  let (name, c) := s.cursor.next.takeWhile isNameChar
  if name.isEmpty || !endsWord c.peek then .error (.malformed .badDirective)
  else
    let (directive, c) ← takeDirectiveRest (String.ofList name) c
    let c ← takeIgnoredLine .badDirective c
    .ok { s.push (.directive directive) with cursor := c, keyAllowed := false }

def scanDocumentMarker (s : Scanner) (t : Token) : Except Error Scanner := do
  let s ← (s.unwind (-1)).dropKey
  .ok { s.take 3 t with keyAllowed := false }

def scanFlowStart (s : Scanner) (t : Token) : Except Error Scanner := do
  let s ← s.saveKey
  .ok { s.take 1 t with flow := s.flow + 1, keyAllowed := true }

def scanFlowEnd (s : Scanner) (t : Token) : Except Error Scanner := do
  let s ← s.dropKey
  .ok { s.take 1 t with flow := s.flow - 1, keyAllowed := false }

def scanFlowEntry (s : Scanner) : Except Error Scanner := do
  let s ← s.dropKey
  .ok { s.take 1 .flowEntry with keyAllowed := true }

def scanBlockEntry (s : Scanner) : Except Error Scanner :=
  if s.flow == 0 && !s.keyAllowed then .error (.malformed .misplacedEntry)
  else do
    let s := if s.flow == 0 then s.openBlock s.cursor.column s.tokens.size .blockSequence else s
    let s ← s.dropKey
    .ok { s.take 1 .blockEntry with keyAllowed := true }

def scanKey (s : Scanner) : Except Error Scanner :=
  if s.flow == 0 && !s.keyAllowed then .error (.malformed .misplacedEntry)
  else do
    let s := if s.flow == 0 then s.openBlock s.cursor.column s.tokens.size .blockMapping else s
    let s ← s.dropKey
    .ok { s.take 1 .key with keyAllowed := s.flow == 0 }

def scanValue (s : Scanner) : Except Error Scanner :=
  match s.keys.lookup s.flow with
  | some k =>
    let s := { s with
      keys := s.keys.filter (·.1 != s.flow)
      tokens := s.tokens.insertIdxIfInBounds k.number .key }
    let s := if s.flow == 0 then s.openBlock k.start.column k.number .blockMapping else s
    .ok { s.take 1 .value with keyAllowed := false }
  | none =>
    if s.flow == 0 && !s.keyAllowed then .error (.malformed .misplacedEntry)
    else do
      let s := if s.flow == 0 then s.openBlock s.cursor.column s.tokens.size .blockMapping else s
      let s ← s.dropKey
      .ok { s.take 1 .value with keyAllowed := s.flow == 0 }

def scanAnchor (s : Scanner) (t : String → Token) : Except Error Scanner := do
  let s ← s.saveKey
  let (name, c) := s.cursor.next.takeWhile isNameChar
  if name.isEmpty || !(endsIndicator c.peek || "?:,]\x7d%@\x60".toList.contains c.peek) then
    .error (.malformed .badAnchor)
  else .ok { s.push (t (String.ofList name)) with cursor := c, keyAllowed := false }

def takeTag (c : Cursor) : Except Error (Option String × String × Cursor) :=
  if c.peekAt 1 == '<' then do
    let (uri, c) ← takeUri .badTag (c.skip 2)
    if c.peek == '>' then .ok (none, uri, c.next) else .error (.malformed .badTag)
  else if endsIndicator (c.peekAt 1) then .ok (none, "!", c.next)
  else do
    let word := c.next.rest.takeWhile (!endsWord ·)
    let (handle, c) ←
      if word.contains '!' then takeHandle .badTag c else .ok ("!", c.next)
    let (rest, c) ← takeUri .badTag c
    .ok (some handle, rest, c)

def scanTag (s : Scanner) : Except Error Scanner := do
  let s ← s.saveKey
  let (handle, rest, c) ← takeTag s.cursor
  if endsWord c.peek then
    .ok { s.push (.tag handle rest) with cursor := c, keyAllowed := false }
  else .error (.malformed .badTag)

def scanBlock (s : Scanner) (fold : Bool) : Except Error Scanner := do
  let s ← s.dropKey
  let (text, c) ← takeBlock fold s.indent s.cursor.next
  .ok { s.push (.scalar (String.ofList text) false) with cursor := c, keyAllowed := true }

def scanQuoted (s : Scanner) : Except Error Scanner := do
  let s ← s.saveKey
  let c := s.cursor
  let (text, c) ← takeQuoted c.peek (c.rest.length + 1) c.next []
  .ok { s.push (.scalar (String.ofList text) false) with cursor := c, keyAllowed := false }

/-- The length of the plain text in front, on one line and without spaces. -/
def plainLength (flow : Bool) : List Char → Nat
  | [] => 0
  | ch :: rest =>
    let next := rest.headD endMark
    if endsIndicator ch then 0
    else if ch == ':' && (endsIndicator next || (flow && ",[]\x7b\x7d".toList.contains next)) then 0
    else if flow && ",?[]\x7b\x7d".toList.contains ch then 0
    else plainLength flow rest + 1

/-- Takes the empty lines within plain text; nothing is left of them if a document marker
follows. -/
def plainBreaks (fuel : Nat) (c : Cursor) (found : List Char) : Option (List Char) × Cursor :=
  match fuel with
  | 0 => (some found.reverse, c)
  | fuel + 1 =>
    if c.peek == ' ' then plainBreaks fuel c.next found
    else
      match c.takeBreak with
      | (some b, c) =>
        if c.atDocumentMarker then (none, c) else plainBreaks fuel c (b :: found)
      | (none, c) => (some found.reverse, c)

def plainSpaces (c : Cursor) : List Char × Bool × Cursor :=
  let (spaces, c) := c.takeWhile (· == ' ')
  match c.takeBreak with
  | (none, c) => (spaces, false, c)
  | (some b, c) =>
    if c.atDocumentMarker then ([], true, c)
    else
      match plainBreaks (c.rest.length + 1) c [] with
      | (some breaks, c) => (folded b breaks, true, c)
      | (none, c) => ([], true, c)

def takePlain (flow : Bool) (indent : Int) (fuel : Nat) (c : Cursor) (keyAllowed : Bool)
    (spaces found : List Char) : List Char × Bool × Cursor :=
  match fuel with
  | 0 => (found.reverse, keyAllowed, c)
  | fuel + 1 =>
    let length := if c.peek == '#' then 0 else plainLength flow c.rest
    if length = 0 then (found.reverse, keyAllowed, c)
    else
      let found := (c.rest.take length).reverse ++ spaces.reverse ++ found
      let (spaces, crossed, c) := plainSpaces (c.skip length)
      if spaces.isEmpty || c.peek == '#' || (!flow && (c.column : Int) < indent) then
        (found.reverse, crossed, c)
      else takePlain flow indent fuel c crossed spaces found

def scanPlain (s : Scanner) : Except Error Scanner := do
  let s ← s.saveKey
  let c := s.cursor
  let (text, keyAllowed, c) :=
    takePlain (s.flow > 0) (s.indent + 1) (c.rest.length + 1) c false [] []
  .ok { s.push (.scalar (String.ofList text) true) with cursor := c, keyAllowed }

def startsPlain (flow : Bool) (c : Cursor) : Bool :=
  let ch := c.peek
  !(endsIndicator ch || "-?:,[]\x7b\x7d#&*!|>'\"%@\x60".toList.contains ch) ||
    (!endsIndicator (c.peekAt 1) && (ch == '-' || (!flow && (ch == '?' || ch == ':'))))

def scanEnd (s : Scanner) : Except Error Scanner := do
  let s ← (s.unwind (-1)).dropKey
  .ok { s.push .streamEnd with keyAllowed := false, keys := [] }

def scanToken (s : Scanner) : Except Error Scanner :=
  let c := s.cursor
  let flow := s.flow > 0
  match c.peek with
  | '[' => s.scanFlowStart .flowSequence
  | '\x7b' => s.scanFlowStart .flowMapping
  | ']' => s.scanFlowEnd .flowSequenceEnd
  | '\x7d' => s.scanFlowEnd .flowMappingEnd
  | ',' => s.scanFlowEntry
  | '*' => s.scanAnchor .alias
  | '&' => s.scanAnchor .anchor
  | '!' => s.scanTag
  | '\x27' => s.scanQuoted
  | '"' => s.scanQuoted
  | ch =>
    if ch == '%' && c.column == 0 then s.scanDirective
    else if c.column == 0 && c.atMarker '-' then s.scanDocumentMarker .documentStart
    else if c.column == 0 && c.atMarker '.' then s.scanDocumentMarker .documentEnd
    else if ch == '-' && endsIndicator (c.peekAt 1) then s.scanBlockEntry
    else if ch == '?' && (flow || endsIndicator (c.peekAt 1)) then s.scanKey
    else if ch == ':' && (flow || endsIndicator (c.peekAt 1)) then s.scanValue
    else if ch == '|' && !flow then s.scanBlock false
    else if ch == '>' && !flow then s.scanBlock true
    else if startsPlain flow c then s.scanPlain
    else .error (.malformed .stray)

def step (s : Scanner) : Except Error Scanner := do
  let s := s.skipToToken (s.cursor.rest.length + 1)
  let s ← s.dropStaleKeys
  let s := s.unwind s.cursor.column
  if s.cursor.rest.isEmpty then s.scanEnd else s.scanToken

def run (fuel : Nat) (s : Scanner) : Except Error (List Token) :=
  match fuel with
  | 0 => .ok s.tokens.toList
  | fuel + 1 => do
    let s ← s.step
    if s.tokens.back? == some .streamEnd then .ok s.tokens.toList else s.run fuel

end Scanner

def isAllowed (c : Char) : Bool :=
  let n := c.toNat
  n == 0x9 || n == 0xa || n == 0xd || (0x20 ≤ n && n ≤ 0x7e) || n == 0x85 ||
    (0xa0 ≤ n && n ≤ 0xd7ff) || (0xe000 ≤ n && n ≤ 0xfffd) || 0x10000 ≤ n

/-- The tokens of a text.  A byte order mark in front is no part of it. -/
def Token.scan (text : List Char) : Except Error (List Token) :=
  if text.any (!isAllowed ·) then .error (.malformed .unprintable)
  else
    let text := if text.head? == some '\ufeff' then text.drop 1 else text
    Scanner.run (text.length + 2) { cursor := { rest := text } }

end LineCensus.Yaml
