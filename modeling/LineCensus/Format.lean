import LineCensus.Format.Json
import LineCensus.Format.Sloccount
import LineCensus.Format.Table
import LineCensus.Format.Xml

/-!
# Reports

The forms in which the outcome of a count can be written.
-/

namespace LineCensus

inductive Format where
  | table
  | xml
  | sloccount
  | json
  deriving DecidableEq, Repr

namespace Format

def all : List Format :=
  [.table, .xml, .sloccount, .json]

def text : Format → String
  | .table => "default"
  | .xml => "cloc-xml"
  | .sloccount => "sloccount"
  | .json => "json"

def ofText? (s : String) : Option Format :=
  all.find? (·.text == s)

def unknownMessage (word : String) : String :=
  s!"unknown output type {Text.quoted word}; expected one of: " ++
    ", ".intercalate (all.map text)

end Format

def Census.render (c : Census) (type : Format) (layout : Format.Layout) : String :=
  match type with
  | .table => Format.Table.render layout c
  | .xml => Format.Xml.render layout c
  | .sloccount => Format.Sloccount.render c
  | .json => Format.Json.render layout c

end LineCensus
