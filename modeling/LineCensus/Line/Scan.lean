import LineCensus.Grammar
import LineCensus.Text.Blank

/-!
# Scanning a line for block comments

A line is read from left to right.  At each position the pairs of the grammar are tried in order:
a pair may open a comment, the innermost open comment may be closed, and outside of comments
every pair that is tried in vain is told whether the character is visible.  The line is code if
every pair has seen a visible character outside of comments.
-/

namespace LineCensus.Line

/-- A pair of the grammar, and whether it has seen a visible character outside of comments. -/
structure Witness where
  pair : Delimiters
  visible : Bool := false
  deriving DecidableEq

/-- The open block comments, innermost first. -/
abbrev Depth := List Delimiters

inductive Turn where
  | opens (pair : Delimiters)
  /-- The innermost comment, whose pair is given, is closed. -/
  | closes (pair : Delimiters)
  | passes
  deriving DecidableEq

/-- Whether the pair opens a comment in front of `text`.  A pair that opens and closes with the
same delimiter does so only outside of comments. -/
def canOpen (depth : Depth) (text : List Char) (pair : Delimiters) : Bool :=
  !pair.opener.isEmpty && pair.opener.isPrefixOf text && (!pair.toggles || depth.isEmpty)

/-- Whether the innermost comment, whose pair is given, ends in front of `text`. -/
def canClose (text : List Char) (innermost : Delimiters) : Bool :=
  !innermost.closer.isEmpty && innermost.closer.isPrefixOf text

def tryPairs (depth : Depth) (c : Char) (rest : List Char) :
    List Witness → Turn × List Witness
  | [] => (.passes, [])
  | w :: more =>
    if canOpen depth (c :: rest) w.pair then (.opens w.pair, w :: more)
    else
      match depth with
      | innermost :: _ =>
        if canClose (c :: rest) innermost then (.closes innermost, w :: more)
        else
          let (turn, told) := tryPairs depth c rest more
          (turn, w :: told)
      | [] =>
        let (turn, told) := tryPairs depth c rest more
        (turn, { w with visible := w.visible || !Text.isBlank c } :: told)

def Turn.after (turn : Turn) (depth : Depth) : Depth :=
  match turn with
  | .opens pair => pair :: depth
  | .closes _ => depth.tail
  | .passes => depth

def Turn.extra (turn : Turn) : Nat :=
  match turn with
  | .opens pair => pair.opener.length - 1
  | .closes pair => pair.closer.length - 1
  | .passes => 0

/-- Reads `text` after leaving out its first `skip` characters, which belong to a delimiter. -/
def scanFrom (skip : Nat) (depth : Depth) (seen : List Witness) :
    (text : List Char) → Depth × List Witness
  | [] => (depth, seen)
  | c :: rest =>
    match skip with
    | skip + 1 => scanFrom skip depth seen rest
    | 0 =>
      let (turn, told) := tryPairs depth c rest seen
      scanFrom turn.extra (turn.after depth) told rest

def scan (blocks : List Delimiters) (depth : Depth) (text : List Char) : Depth × Bool :=
  let (after, seen) := scanFrom 0 depth (blocks.map ({ pair := · })) text
  (after, seen.all Witness.visible)

end LineCensus.Line
