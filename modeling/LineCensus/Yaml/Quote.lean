import LineCensus.Yaml.Cursor
import LineCensus.Yaml.Fault

/-!
# Scalars with a delimiter of their own

Text between quotes, and text in an indented block.
-/

namespace LineCensus.Yaml

def hexValue? (c : Char) : Option Nat :=
  if c.isDigit then some (c.toNat - 48)
  else if 'a' ≤ c && c ≤ 'f' then some (c.toNat - 87)
  else if 'A' ≤ c && c ≤ 'F' then some (c.toNat - 55)
  else none

def hexNumber? (digits : List Char) : Option Nat :=
  digits.foldlM (fun n c => (hexValue? c).map (16 * n + ·)) 0

def escapes : List (Char × Char) :=
  [('0', '\x00'), ('a', '\x07'), ('b', '\x08'), ('t', '\t'), ('\t', '\t'), ('n', '\n'),
   ('v', '\x0b'), ('f', '\x0c'), ('r', '\r'), ('e', '\x1b'), (' ', ' '), ('"', '"'),
   ('\\', '\\'), ('/', '/'), ('N', '\u0085'), ('_', '\u00a0'), ('L', '\u2028'), ('P', '\u2029')]

def escapeWidths : List (Char × Nat) :=
  [('x', 2), ('u', 4), ('U', 8)]

/-- Takes the line ends and the indentation of the lines that follow, within quotes. -/
def quotedBreaks (fuel : Nat) (c : Cursor) (found : List Char) :
    Except Error (List Char × Cursor) :=
  match fuel with
  | 0 => .ok (found.reverse, c)
  | fuel + 1 =>
    if c.atDocumentMarker then .error (.malformed .markerInQuotes)
    else
      let c := c.dropWhile fun ch => ch == ' ' || ch == '\t'
      match c.takeBreak with
      | (some b, c) => quotedBreaks fuel c (b :: found)
      | (none, c) => .ok (found.reverse, c)

/-- A line end within quotes is a space, unless empty lines follow it. -/
def folded (lineEnd : Char) (breaks : List Char) : List Char :=
  if lineEnd != '\n' then lineEnd :: breaks
  else if breaks.isEmpty then [' ']
  else breaks

def character (n : Nat) : Except Error Char :=
  if n < 0x110000 then .ok (Char.ofNat n)
  else if n < 0x80000000 then .error (.badValue "chr() arg not in range(0x110000)")
  else .error (.broken .overflow)

def takeEscape (c : Cursor) : Except Error (List Char × Cursor) :=
  match escapes.lookup c.peek, escapeWidths.lookup c.peek with
  | some ch, _ => .ok ([ch], c.next)
  | none, some width =>
    let digits := c.next.rest.take width
    match hexNumber? digits with
    | some n =>
      if digits.length = width then (character n).map fun ch => ([ch], c.skip (width + 1))
      else .error (.malformed .badEscape)
    | none => .error (.malformed .badEscape)
  | none, none =>
    match c.takeBreak with
    | (some _, c) => quotedBreaks (c.rest.length + 1) c []
    | (none, _) => .error (.malformed .badEscape)

def takeQuoted (mark : Char) (fuel : Nat) (c : Cursor) (found : List Char) :
    Except Error (List Char × Cursor) :=
  match fuel with
  | 0 => .error (.malformed .unclosedQuote)
  | fuel + 1 =>
    if c.rest.isEmpty then .error (.malformed .unclosedQuote)
    else if c.peek == mark then
      if mark == '\x27' && c.peekAt 1 == mark then takeQuoted mark fuel (c.skip 2) (mark :: found)
      else .ok (found.reverse, c.next)
    else if mark == '"' && c.peek == '\\' then do
      let (chars, c) ← takeEscape c.next
      takeQuoted mark fuel c (chars.reverse ++ found)
    else if c.peek == ' ' || c.peek == '\t' || isBreak c.peek then
      let (spaces, c) := c.takeWhile fun ch => ch == ' ' || ch == '\t'
      match c.takeBreak with
      | (some b, c) => do
        let (breaks, c) ← quotedBreaks (c.rest.length + 1) c []
        takeQuoted mark fuel c ((folded b breaks).reverse ++ found)
      | (none, c) => takeQuoted mark fuel c (spaces.reverse ++ found)
    else takeQuoted mark fuel c.next (c.peek :: found)

/-- What becomes of the line ends at the end of a block. -/
inductive Chomp where
  | clip
  | strip
  | keep
  deriving DecidableEq

def takeChomp (c : Cursor) : Chomp × Cursor :=
  if c.peek == '+' then (.keep, c.next)
  else if c.peek == '-' then (.strip, c.next)
  else (.clip, c)

def takeIncrement (c : Cursor) : Except Error (Option Nat × Cursor) :=
  if c.peek == '0' then .error (.malformed .badBlockHeader)
  else if c.peek.isDigit then .ok (some (c.peek.toNat - 48), c.next)
  else .ok (none, c)

def takeIgnoredLine (fault : Fault) (c : Cursor) : Except Error Cursor :=
  let c := c.dropWhile (· == ' ')
  let c := if c.peek == '#' then c.dropWhile (!endsLine ·) else c
  if endsLine c.peek then .ok c.takeBreak.2 else .error (.malformed fault)

def takeBlockHeader (c : Cursor) : Except Error (Chomp × Option Nat × Cursor) := do
  let (chomp, c) := takeChomp c
  let (increment, c) ← takeIncrement c
  let (chomp, c) := if chomp == .clip then takeChomp c else (chomp, c)
  if !endsWord c.peek then .error (.malformed .badBlockHeader)
  else
    let c ← takeIgnoredLine .badBlockHeader c
    .ok (chomp, increment, c)

def takeLeadingLines (fuel : Nat) (c : Cursor) (deepest : Nat) (found : List Char) :
    List Char × Nat × Cursor :=
  match fuel with
  | 0 => (found.reverse, deepest, c)
  | fuel + 1 =>
    if c.peek == ' ' then
      takeLeadingLines fuel c.next (max deepest c.next.column) found
    else
      match c.takeBreak with
      | (some b, c) => takeLeadingLines fuel c deepest (b :: found)
      | (none, c) => (found.reverse, deepest, c)

def skipIndent (indent : Nat) (c : Cursor) : Cursor :=
  let spaces := (c.takeWhile (· == ' ')).1.length
  c.skip (min spaces (indent - c.column))

def takeEmptyLines (indent : Nat) (fuel : Nat) (c : Cursor) (found : List Char) :
    List Char × Cursor :=
  let c := skipIndent indent c
  match fuel with
  | 0 => (found.reverse, c)
  | fuel + 1 =>
    match c.takeBreak with
    | (some b, c) => takeEmptyLines indent fuel c (b :: found)
    | (none, c) => (found.reverse, c)

/-- Takes the lines of a block: `breaks` are the line ends before the current one. -/
def takeBlockLines (fold : Bool) (indent : Nat) (fuel : Nat) (c : Cursor)
    (breaks found : List Char) : List Char × Option Char × List Char × Cursor :=
  match fuel with
  | 0 => (found, none, breaks, c)
  | fuel + 1 =>
    let flush := c.peek != ' ' && c.peek != '\t'
    let (text, c) := c.takeWhile (!endsLine ·)
    let found := text.reverse ++ breaks.reverse ++ found
    let (lineEnd, c) := c.takeBreak
    let (breaks, c) := takeEmptyLines indent (c.rest.length + 1) c []
    if c.column == indent && !c.rest.isEmpty then
      let joined :=
        if fold && lineEnd == some '\n' && flush && c.peek != ' ' && c.peek != '\t' then
          if breaks.isEmpty then [' '] else []
        else lineEnd.toList
      takeBlockLines fold indent fuel c breaks (joined ++ found)
    else (found, lineEnd, breaks, c)

/-- Takes a block scalar after its indicator; `outer` is the indentation around it. -/
def takeBlock (fold : Bool) (outer : Int) (c : Cursor) : Except Error (List Char × Cursor) := do
  let (chomp, increment, c) ← takeBlockHeader c
  let least := (max 1 (outer + 1)).toNat
  let (indent, breaks, c) :=
    match increment with
    | some n =>
      let indent := least + n - 1
      let (breaks, c) := takeEmptyLines indent (c.rest.length + 1) c []
      (indent, breaks, c)
    | none =>
      let (breaks, deepest, c) := takeLeadingLines (c.rest.length + 1) c 0 []
      (max least deepest, breaks, c)
  let (found, lineEnd, breaks, c) :=
    if c.column == indent && !c.rest.isEmpty then
      takeBlockLines fold indent (c.rest.length + 1) c breaks []
    else ([], none, breaks, c)
  let found := if chomp == .strip then found else lineEnd.toList ++ found
  let found := if chomp == .keep then breaks.reverse ++ found else found
  .ok (found.reverse, c)

end LineCensus.Yaml
