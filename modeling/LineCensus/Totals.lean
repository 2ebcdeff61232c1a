import LineCensus.Census
import LineCensus.Table

/-!
# Summing up

Records are collected one by one, with a running tally of each language and of all files.  Two
collections can be joined.  The order in which entries arrive shows only in the order of files of
equal path and language.
-/

namespace LineCensus

/-- The entries so far, in order of arrival, and their tallies. -/
structure Totals where
  files : List FileEntry := []
  languages : Table Tally := []
  total : Tally := {}
  deriving DecidableEq, Repr

namespace Totals

def addTo (languages : Table Tally) (name : String) (t : Tally) : Table Tally :=
  languages.set name ((languages.find? name).getD {} + t)

theorem find?_addTo_self (languages : Table Tally) (name : String) (t : Tally) :
    (addTo languages name t).find? name = some ((languages.find? name).getD {} + t) :=
  Table.find?_set_self languages name _

theorem find?_addTo_of_ne (languages : Table Tally) {name other : String} (t : Tally)
    (h : other ≠ name) : (addTo languages name t).find? other = languages.find? other :=
  Table.find?_set_of_ne languages _ h

def add (a : Totals) (r : FileEntry) : Totals where
  files := a.files ++ [r]
  languages := addTo a.languages r.language r.tally
  total := a.total + r.tally

def join (a b : Totals) : Totals where
  files := a.files ++ b.files
  languages := b.languages.foldl (fun t (name, tally) => addTo t name tally) a.languages
  total := a.total + b.total

/-- Whether a file comes before another, or beside it, by path and then by language. -/
def fileLe (a b : FileEntry) : Bool :=
  a.path < b.path || (a.path == b.path && a.language ≤ b.language)

def census (a : Totals) : Census where
  files := a.files.mergeSort fileLe
  languages := (a.languages.mergeSort fun x y => x.1 ≤ y.1).map fun (name, tally) => ⟨name, tally⟩
  total := ⟨totalName, a.total⟩

def ofList (entries : List FileEntry) : Totals :=
  entries.foldl add {}

end Totals

def Census.ofEntries (entries : List FileEntry) : Census :=
  (Totals.ofList entries).census

end LineCensus
