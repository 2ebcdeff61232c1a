import LineCensus.Grammar
import LineCensus.Schema

/-!
# Grammars from fields

A grammar as it is written in a table of languages.
-/

namespace LineCensus.Grammar

open Schema

def fieldNames : List String :=
  ["name", "line_comments", "multi_lines"]

def delimiters (pair : String × String) : Delimiters :=
  ⟨pair.1.toList, pair.2.toList⟩

/-- A grammar from its fields; there may be no other fields. -/
def ofFields (fields : Fields) : Except Invalid Grammar :=
  let name : Checked (List (List Char) → List Delimiters → Unit → Grammar) :=
    (required fields "name" asText).map fun name markers blocks _ => ⟨name, markers, blocks⟩
  let markers := optional fields "line_comments" [] fun v =>
    (asList asText v).map fun markers => markers.map String.toList
  let blocks := optional fields "multi_lines" [] fun v =>
    (asList (asPair asText) v).map fun pairs => pairs.map delimiters
  named "Grammar" <|
    name.also markers |>.also blocks |>.also (noOthers fields fieldNames)

end LineCensus.Grammar
