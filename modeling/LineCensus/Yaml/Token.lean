/-!
# The tokens of a YAML text
-/

namespace LineCensus.Yaml

inductive Directive where
  | version (major minor : Nat)
  | tag (handle uri : String)
  | other
  deriving DecidableEq, Repr

/-- A token.  Block collections are marked by their indentation, flow collections by brackets and
braces. -/
inductive Token where
  | directive (d : Directive)
  | documentStart
  | documentEnd
  | blockSequence
  | blockMapping
  | blockEnd
  | flowSequence
  | flowSequenceEnd
  | flowMapping
  | flowMappingEnd
  | blockEntry
  | flowEntry
  | key
  | value
  | alias (name : String)
  | anchor (name : String)
  /-- A tag: what stands between its exclamation marks, if it has a handle, and the rest. -/
  | tag (handle : Option String) (rest : String)
  | scalar (text : String) (plain : Bool)
  | streamEnd
  deriving DecidableEq, Repr

end LineCensus.Yaml
