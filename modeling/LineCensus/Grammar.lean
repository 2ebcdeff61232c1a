/-!
# Comment grammars

How a language marks its comments: with markers that turn the rest of a line into a comment, and
with pairs of delimiters around a block.
-/

namespace LineCensus

/-- The delimiters of a block comment.  An empty opener never opens, an empty closer never
closes. -/
structure Delimiters where
  opener : List Char
  closer : List Char
  deriving DecidableEq, Repr

def Delimiters.toggles (d : Delimiters) : Bool :=
  d.opener == d.closer

structure Grammar where
  name : String
  lineMarkers : List (List Char) := []
  blocks : List Delimiters := []
  deriving DecidableEq

namespace Grammar

def openers (g : Grammar) : List (List Char) :=
  (g.blocks.map Delimiters.opener).filter (!·.isEmpty)

/-- A single pair of empty delimiters says that the language has no block comments. -/
def blocksDisabled (g : Grammar) : Bool :=
  g.blocks == [⟨[], []⟩]

end Grammar

/-- The pseudo-language of files that no rule places. -/
def fallbackName : String := "Unknown"

/-- Without a grammar, every line that is not blank is code. -/
def fallbackGrammar : Grammar := { name := fallbackName }

end LineCensus
