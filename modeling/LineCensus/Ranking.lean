import LineCensus.Census
import LineCensus.Text.Quoted

/-!
# The order of a report

A report is ordered by name, or by a number from the largest down.  Where two entries have the
same number, the one with more code comes first; where that is equal too, they keep their order.
-/

namespace LineCensus

inductive Ranking where
  | name
  | files
  | blank
  | comment
  | code
  | tokens
  deriving DecidableEq, Repr

namespace Ranking

def all : List Ranking :=
  [.name, .files, .blank, .comment, .code, .tokens]

def text : Ranking → String
  | .name => "name"
  | .files => "files"
  | .blank => "blank"
  | .comment => "comment"
  | .code => "code"
  | .tokens => "tokens"

def ofText? (s : String) : Option Ranking :=
  all.find? (·.text == s)

/-- The number of a tally that a key looks at; the name is no number. -/
def number (key : Ranking) (t : Tally) : Int :=
  match key with
  | .name => 0
  | .files => t.files
  | .blank => t.blank
  | .comment => t.comment
  | .code => t.code
  | .tokens => t.tokens

end Ranking

/-- Whether an entry with the first name and tally may stand before one with the second. -/
def ranksBefore (key : Ranking) (a b : String × Tally) : Bool :=
  match key with
  | .name => a.1 ≤ b.1
  | key =>
    key.number b.2 < key.number a.2 || (key.number b.2 == key.number a.2 && b.2.code ≤ a.2.code)

inductive RankingError where
  | unknownKey (word : String)
  | filesByFiles
  deriving DecidableEq, Repr

def RankingError.message : RankingError → String
  | .unknownKey word => s!"{Text.quoted word} is not a valid SortKey"
  | .filesByFiles => "files cannot be sorted by file count"

def Ranking.parse (word : String) : Except RankingError Ranking :=
  match Ranking.ofText? word with
  | some key => .ok key
  | none => .error (.unknownKey word)

def rankLanguages (key : Ranking) (languages : List LanguageEntry) : List LanguageEntry :=
  languages.mergeSort fun a b => ranksBefore key (a.name, a.tally) (b.name, b.tally)

def orderFiles (key : Ranking) (files : List FileEntry) : List FileEntry :=
  files.mergeSort fun a b => ranksBefore key (a.path, a.tally) (b.path, b.tally)

/-- Files in the order of a key; there is no order by the number of files. -/
def rankFiles (key : Ranking) (files : List FileEntry) : Except RankingError (List FileEntry) :=
  if key = .files then .error .filesByFiles else .ok (orderFiles key files)

/-- Orders both files and languages.  Ordering by the number of files leaves the files alone. -/
def Census.ranked (c : Census) (key : Ranking) : Census where
  files := if key = .files then c.files else orderFiles key c.files
  languages := rankLanguages key c.languages
  total := c.total

end LineCensus
