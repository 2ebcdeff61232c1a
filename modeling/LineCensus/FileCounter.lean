import LineCensus.Census
import LineCensus.Detector
import LineCensus.Digest
import LineCensus.LanguageChoice
import LineCensus.Line.Reader

/-!
# Counting one file

The language of a file decides whether it is counted, and with which grammar.  A file that cannot
be read, or not to its end, is counted as far as possible, and its entry says what went wrong.
-/

namespace LineCensus

def entryOf (path : String) (g : Grammar) (reading : Line.Reading) : FileEntry :=
  let counts := Line.count g reading.texts
  { path
    language := g.name
    code := counts.code
    comment := counts.comment
    blank := counts.blank
    error := reading.error.map (·.message) }

def entryOfContent (path : String) (g : Grammar) (limit : Nat) (content : List UInt8) :
    Except Line.Oversized FileEntry :=
  (Line.read limit content).map (entryOf path g)

/-- Counts single files; without a filter, every language is counted.  The encoder says how many
tokens a text is cut into. -/
structure FileCounter where
  detector : Detector := {}
  filter : Option LanguageChoice := none
  countUnknown : Bool := false
  countTokens : Bool := false
  encoder : List Char → Nat
  lineLimit : Nat := defaultLineLimit

/-- Why a file is not counted, and none is after it. -/
inductive CountError where
  | language (fault : LanguageFault)
  | line (error : Line.Oversized)
  deriving DecidableEq, Repr

namespace FileCounter

/-- The grammar of a language; unknown languages may share one. -/
def grammar? (c : FileCounter) (language : Value) : Except LanguageFault (Option Grammar) :=
  let known :=
    if language.isNothing then .ok none else c.detector.registry.lookupValue language
  known.map fun found => found.or (if c.countUnknown then some fallbackGrammar else none)

def grammarFor (c : FileCounter) (p : Path) (language : Value) :
    Except LanguageFault (Option Grammar) :=
  (c.grammar? language).map fun found => found.filter fun g => c.filter.all (·.admits p g.name)

/-- The number of tokens of a content, if tokens are counted.  The empty text is not encoded. -/
def tokensIn (c : FileCounter) (content : List UInt8) : Nat :=
  let text := Text.Utf8.decodeReplacing content
  if c.countTokens && !text.isEmpty then c.encoder text else 0

def entryFor (c : FileCounter) (p : Path) (g : Grammar) (content : List UInt8) :
    Except Line.Oversized FileEntry :=
  (entryOfContent p.text g c.lineLimit content).map fun e =>
    { e with
      contentHash := some (Digest.hex (Digest.sha256 content))
      tokens := c.tokensIn content }

def unreadable (p : Path) (g : Grammar) (e : FileError) : FileEntry :=
  { path := p.text
    language := g.name
    error := some s!"cannot read {p.text}: {e.message}" }

def measure (c : FileCounter) (t : FileTree) (p : Path) (g : Grammar) :
    Except Line.Oversized FileEntry :=
  match t.read p with
  | .ok content => c.entryFor p g content
  | .error e => .ok (unreadable p g e)

def grammarAt (c : FileCounter) (t : FileTree) (p : Path) :
    Except LanguageFault (Option Grammar) :=
  c.detector.detect t p (t.read p).toOption >>= c.grammarFor p

def count (c : FileCounter) (t : FileTree) (p : Path) : Except CountError (Option FileEntry) := do
  match ← (c.grammarAt t p).mapError .language with
  | some g => ((c.measure t p g).mapError .line).map some
  | none => .ok none

end FileCounter

end LineCensus
