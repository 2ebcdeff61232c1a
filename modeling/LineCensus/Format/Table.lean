import LineCensus.Census
import LineCensus.Text.Columns

/-!
# The report as a table

A table for reading: one row for each language or file, with the numbers under their headings, and
the sum of all below.
-/

namespace LineCensus.Format

open Text (padLeft padRight)

/-- What a report shows: files instead of languages, and tokens beside lines. -/
structure Layout where
  byFile : Bool := false
  showTokens : Bool := false
  deriving DecidableEq, Repr

namespace Table

def header (layout : Layout) : String :=
  "files          blank        comment           code" ++
    if layout.showTokens then "           tokens" else ""

def cell (width : Nat) (n : Int) : String :=
  padLeft width (toString n)

def lineCells (layout : Layout) (t : Tally) : String :=
  cell 14 t.comment ++ " " ++ cell 14 t.code ++
    if layout.showTokens then " " ++ cell 14 t.tokens else ""

def rowOfLanguage (layout : Layout) (width : Nat) (name : String) (t : Tally) : String :=
  padRight width name ++ " " ++ cell 6 t.files ++ " " ++ cell 14 t.blank ++ " " ++
    lineCells layout t

def rowOfFile (layout : Layout) (width : Nat) (r : FileEntry) : String :=
  padRight width r.path ++ " " ++ cell 21 r.blank ++ " " ++ lineCells layout r.tally

/-- The width of the column for paths: the longest path, at least the word for the total, and
without any path the heading. -/
def pathWidth (files : List FileEntry) : Nat :=
  match files with
  | [] => max "File".length totalName.length
  | r :: rest => max (rest.foldl (fun w r => max w r.path.length) r.path.length) totalName.length

def nameWidth : Nat := 27

def assemble (rowLength : Nat) (title : String) (rows : List String) (footer : String) : String :=
  let separator := Text.line rowLength '-'
  "\n".intercalate ([separator, title, separator] ++ rows ++ [separator, footer, separator]) ++ "\n"

def render (layout : Layout) (c : Census) : String :=
  if layout.byFile then
    let width := pathWidth c.files
    assemble (width + (header layout).length + 2)
      (padRight (width + 1) "File" ++ " " ++ header layout)
      (c.files.map (rowOfFile layout width))
      (rowOfLanguage layout width totalName c.total.tally)
  else
    assemble (if layout.showTokens then 96 else 79)
      (padRight (nameWidth + 1) "Language" ++ " " ++ header layout)
      (c.languages.map fun l => rowOfLanguage layout nameWidth l.name l.tally)
      (rowOfLanguage layout nameWidth totalName c.total.tally)

end Table

end LineCensus.Format
