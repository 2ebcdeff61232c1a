import LineCensus.Format.Table
import LineCensus.Text.Quoted

/-!
# The report as JSON

One line, without spaces.  Only quotes, backslashes and control characters are escaped.
-/

namespace LineCensus.Format.Json

def escapeChar (c : Char) : List Char :=
  match c with
  | '"' => ['\\', '"']
  | '\\' => ['\\', '\\']
  | '\x08' => ['\\', 'b']
  | '\x0c' => ['\\', 'f']
  | '\n' => ['\\', 'n']
  | '\r' => ['\\', 'r']
  | '\t' => ['\\', 't']
  | c => if c.toNat < 0x20 then '\\' :: 'u' :: Text.hexDigits 4 c.toNat else [c]

def string (s : String) : String :=
  "\"" ++ String.ofList (s.toList.flatMap escapeChar) ++ "\""

def object (fields : List (String × String)) : String :=
  "\x7b" ++ ",".intercalate (fields.map fun (name, value) => string name ++ ":" ++ value) ++ "\x7d"

def array (items : List String) : String :=
  "[" ++ ",".intercalate items ++ "]"

def lineFields (t : Tally) : List (String × String) :=
  [("code", toString t.code), ("comment", toString t.comment), ("blank", toString t.blank),
   ("tokens", toString t.tokens)]

def tallyFields (t : Tally) : List (String × String) :=
  ("files", toString t.files) :: lineFields t

def fileObject (r : FileEntry) : String :=
  object (("name", string r.path) :: ("language", string r.language) :: lineFields r.tally)

def languageObject (l : LanguageEntry) : String :=
  object (tallyFields l.tally ++ [("name", string l.name)])

def render (layout : Layout) (c : Census) : String :=
  let rows :=
    if layout.byFile then ("files", array (c.files.map fileObject))
    else ("languages", array (c.languages.map languageObject))
  object [rows, ("total", object (tallyFields c.total.tally))] ++ "\n"

end LineCensus.Format.Json
