import LineCensus.Format.Table

/-!
# The report as XML

Elements without content, whose attributes hold the names and numbers.  Characters that would end
an attribute or that a reader would change are written as references.
-/

namespace LineCensus.Format.Xml

def escapeChar (c : Char) : List Char :=
  match c with
  | '&' => "&amp;".toList
  | '<' => "&lt;".toList
  | '>' => "&gt;".toList
  | '"' => "&quot;".toList
  | '\r' => "&#13;".toList
  | '\n' => "&#10;".toList
  | '\t' => "&#09;".toList
  | c => [c]

def escape (s : String) : String :=
  String.ofList (s.toList.flatMap escapeChar)

/-- An element without content. -/
structure Element where
  name : String
  attributes : List (String × String)
  deriving DecidableEq, Repr

def Element.text (e : Element) : String :=
  "<" ++ e.name ++
    String.join (e.attributes.map fun (name, value) => " " ++ name ++ "=\"" ++ escape value ++ "\"")
    ++ " />"

def lineAttributes (t : Tally) : List (String × String) :=
  [("code", toString t.code), ("comment", toString t.comment), ("blank", toString t.blank)]

def fileElement (r : FileEntry) : Element :=
  ⟨"file", ("name", r.path) :: ("language", r.language) :: lineAttributes r.tally⟩

def languageElement (l : LanguageEntry) : Element :=
  ⟨"language",
    ("name", l.name) :: ("files_count", toString l.tally.files) :: lineAttributes l.tally⟩

/-- The name of the list of elements, and the elements in it; the last one is the total. -/
def elements (layout : Layout) (c : Census) : String × List Element :=
  if layout.byFile then
    ("files", c.files.map fileElement ++ [⟨"total", lineAttributes c.total.tally⟩])
  else
    ("languages", c.languages.map languageElement ++
      [⟨"total", ("sum_files", toString c.total.tally.files) :: lineAttributes c.total.tally⟩])

def render (layout : Layout) (c : Census) : String :=
  let (name, elements) := elements layout c
  "\n".intercalate
    (["<?xml version=\"1.0\" encoding=\"UTF-8\"?>", "<results>", "  <" ++ name ++ ">"] ++
      elements.map (fun e => "    " ++ e.text) ++
      ["  </" ++ name ++ ">", "</results>"]) ++ "\n"

end LineCensus.Format.Xml
