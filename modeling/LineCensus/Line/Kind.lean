import LineCensus.Line.Scan
import LineCensus.Text.Occurs

/-!
# Blank, comment, code

The lines of one file, in order, are each called blank, comment or code.  The rules, first match
first:

1. a line of white space is blank, even inside a block comment;
2. the first line that is not blank is code if it names an interpreter (`#!`);
3. outside of block comments, a line that starts with a line marker is a comment, unless it starts
   with the opener of a block as well;
4. outside of block comments, a line without an opener is code;
5. every other line is scanned for delimiters.
-/

namespace LineCensus.Line

inductive Kind where
  | blank
  | comment
  | code
  deriving DecidableEq, Repr

def Kind.text : Kind → String
  | .blank => "blank"
  | .comment => "comment"
  | .code => "code"

structure Counts where
  code : Nat := 0
  comment : Nat := 0
  blank : Nat := 0
  deriving DecidableEq, Repr

namespace Counts

def total (n : Counts) : Nat :=
  n.code + n.comment + n.blank

def add (n : Counts) : Kind → Counts
  | .code => { n with code := n.code + 1 }
  | .comment => { n with comment := n.comment + 1 }
  | .blank => { n with blank := n.blank + 1 }

def text (n : Counts) : String :=
  s!"LineCounts(code={n.code}, comment={n.comment}, blank={n.blank})"

end Counts

/-- What has to be known of the lines before: the open block comments, innermost first, and
whether a line that is not blank has been seen. -/
structure Context where
  depth : Depth := []
  started : Bool := false
  deriving DecidableEq

def startsComment (g : Grammar) (line : List Char) : Bool :=
  g.lineMarkers.any (·.isPrefixOf line) && !g.openers.any (·.isPrefixOf line)

def holdsOpener (g : Grammar) (line : List Char) : Bool :=
  g.openers.any (Text.occursIn · line)

def scanLine (g : Grammar) (depth : Depth) (line : List Char) : Depth × Kind :=
  if g.blocksDisabled then (depth, .code)
  else
    let (after, isCode) := scan g.blocks depth line
    (after, if isCode then .code else .comment)

def classifyOutside (g : Grammar) (line : List Char) : Depth × Kind :=
  if startsComment g line then ([], .comment)
  else if g.blocks.isEmpty || !holdsOpener g line then ([], .code)
  else scanLine g [] line

def byteOrderMark : Char := '\ufeff'

/-- A line that is not blank, without white space around it.  A byte order mark is no part of the
first line; a first line that holds nothing else is code. -/
def classifyVisible (g : Grammar) (ctx : Context) (line : List Char) : Depth × Kind :=
  match ctx.started, ctx.depth, line with
  | false, depth, '#' :: '!' :: _ => (depth, .code)
  | false, [], c :: rest =>
    if c = byteOrderMark then
      let rest := Text.trimStart rest
      if rest.isEmpty then ([], .code) else classifyOutside g rest
    else classifyOutside g (c :: rest)
  | _, [], line => classifyOutside g line
  | _, depth, line => scanLine g depth line

/-- Classifies a line and says what the next line has to know. -/
def Context.classify (g : Grammar) (ctx : Context) (line : List Char) : Context × Kind :=
  let visible := Text.trim line
  if visible.isEmpty then (ctx, .blank)
  else
    let (depth, kind) := classifyVisible g ctx visible
    ({ depth, started := true }, kind)

/-- A file in the course of being counted. -/
structure Session where
  grammar : Grammar
  context : Context := {}
  counts : Counts := {}

namespace Session

def restart (c : Session) : Session :=
  { grammar := c.grammar }

def classify (c : Session) (line : List Char) : Session × Kind :=
  let (context, kind) := c.context.classify c.grammar line
  ({ c with context, counts := c.counts.add kind }, kind)

def inBlock (c : Session) : Bool :=
  !c.context.depth.isEmpty

/-- The open block comments, innermost last. -/
def openBlocks (c : Session) : List Delimiters :=
  c.context.depth.reverse

def classifyAll (c : Session) (lines : List (List Char)) : Session × List Kind :=
  let (c, kinds) := lines.foldl (fun (c, kinds) line =>
    let (c, kind) := c.classify line
    (c, kind :: kinds)) (c, [])
  (c, kinds.reverse)

end Session

def kinds (g : Grammar) (lines : List (List Char)) : List Kind :=
  ((Session.mk g {} {}).classifyAll lines).2

def count (g : Grammar) (lines : List (List Char)) : Counts :=
  ((Session.mk g {} {}).classifyAll lines).1.counts

end LineCensus.Line
