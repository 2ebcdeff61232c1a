import LineCensus.Path
import LineCensus.Pattern.Match
import LineCensus.Pattern.Parse

/-!
# Filters on paths

Patterns for the names of files and for the directories that they are in: what has to match, and
what may not.
-/

namespace LineCensus

structure PathPatterns where
  name : Option Pattern.Compiled := none
  notName : Option Pattern.Compiled := none
  directory : Option Pattern.Compiled := none
  notDirectory : Option Pattern.Compiled := none

namespace PathPatterns

/-- A pattern that is given; the empty text gives none. -/
def pattern (text : Option String) : Except Pattern.Fault (Option Pattern.Compiled) :=
  match text with
  | none | some "" => .ok none
  | some text => (Pattern.parse text.toList).map some

def make (name notName directory notDirectory : Option String) :
    Except Pattern.Fault PathPatterns := do
  let name ← pattern name
  let notName ← pattern notName
  let directory ← pattern directory
  let notDirectory ← pattern notDirectory
  .ok { name, notName, directory, notDirectory }

def occurs (p : Pattern.Compiled) (text : String) : Bool :=
  Pattern.found p.modes p.pattern text.toList

def admits (f : PathPatterns) (p : Path) : Bool :=
  !f.notName.any (occurs · p.name) && f.name.all (occurs · p.name) &&
    !f.notDirectory.any (occurs · p.parent.text) && f.directory.all (occurs · p.parent.text)

end PathPatterns

end LineCensus
