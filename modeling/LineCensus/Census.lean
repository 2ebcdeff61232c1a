import LineCensus.Schema

/-!
# Results

What is known of one counted file, of the files of one language, and of all files together.
-/

namespace LineCensus

/-- Numbers of files, of their lines of each kind, and of their tokens. -/
structure Tally where
  files : Int := 0
  code : Int := 0
  comment : Int := 0
  blank : Int := 0
  tokens : Int := 0
  deriving DecidableEq, Repr

namespace Tally

instance : Add Tally where
  add a b := ⟨a.files + b.files, a.code + b.code, a.comment + b.comment, a.blank + b.blank,
    a.tokens + b.tokens⟩

instance : Zero Tally where
  zero := {}

@[ext] theorem ext' {a b : Tally} (files : a.files = b.files) (code : a.code = b.code)
    (comment : a.comment = b.comment) (blank : a.blank = b.blank)
    (tokens : a.tokens = b.tokens) : a = b := by
  cases a
  cases b
  simp_all

@[simp] theorem files_add (a b : Tally) : (a + b).files = a.files + b.files := rfl

@[simp] theorem code_add (a b : Tally) : (a + b).code = a.code + b.code := rfl

@[simp] theorem comment_add (a b : Tally) : (a + b).comment = a.comment + b.comment := rfl

@[simp] theorem blank_add (a b : Tally) : (a + b).blank = a.blank + b.blank := rfl

@[simp] theorem tokens_add (a b : Tally) : (a + b).tokens = a.tokens + b.tokens := rfl

theorem add_comm (a b : Tally) : a + b = b + a := by
  ext <;> simp <;> omega

theorem add_assoc (a b c : Tally) : a + b + c = a + (b + c) := by
  ext <;> simp <;> omega

end Tally

/-- A counted file.  A file that could not be read to its end carries the reason. -/
structure FileEntry where
  path : String
  language : String := ""
  code : Int := 0
  comment : Int := 0
  blank : Int := 0
  tokens : Int := 0
  error : Option String := none
  contentHash : Option String := none
  deriving DecidableEq, Repr

namespace FileEntry

def lines (r : FileEntry) : Int :=
  r.code + r.comment + r.blank

def tally (r : FileEntry) : Tally :=
  ⟨1, r.code, r.comment, r.blank, r.tokens⟩

def failed (r : FileEntry) : Bool :=
  r.error.any (!·.isEmpty)

end FileEntry

structure LanguageEntry where
  name : String
  tally : Tally := {}
  deriving DecidableEq, Repr

def totalName : String := "TOTAL"

structure Census where
  files : List FileEntry := []
  languages : List LanguageEntry := []
  total : LanguageEntry := { name := totalName }
  deriving DecidableEq, Repr

def Census.failures (c : Census) : List FileEntry :=
  c.files.filter (·.failed)

namespace FileEntry

open Schema in
def ofFields (fields : Fields) : Except Invalid FileEntry :=
  let text (name : String) := optional fields name none (orNull asText)
  let number (name : String) := optional fields name 0 asInteger
  let checked : Checked (String → Int → Int → Int → Int → Option String → Option String →
      FileEntry) := (required fields "path" asText).map FileEntry.mk
  named "FileRecord" <|
    checked.also (optional fields "language" "" asText)
      |>.also (number "code") |>.also (number "comment") |>.also (number "blank")
      |>.also (number "tokens") |>.also (text "error") |>.also (text "content_hash")

end FileEntry

namespace LanguageEntry

open Schema in
def ofFields (fields : Fields) : Except Invalid LanguageEntry :=
  let number (name : String) := optional fields name 0 asInteger
  let files : Checked (Int → Int → Int → Int → Tally) := (number "file_count").map Tally.mk
  let tally := files.also (number "code") |>.also (number "comment") |>.also (number "blank")
    |>.also (number "tokens")
  let name : Checked (Tally → LanguageEntry) :=
    (required fields "name" asText).map LanguageEntry.mk
  named "LanguageRecord" (name.also tally)

end LanguageEntry

end LineCensus
