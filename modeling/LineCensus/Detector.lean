import LineCensus.Content.Guess
import LineCensus.FileTree
import LineCensus.Registry
import LineCensus.Shebang

/-!
# The language of a file

The name of a file settles its language if it is a well-known one, or if its extension belongs to
one language.  An extension that several languages share leaves the choice to a judge of the
content.  A file with an extension that is not listed may name its interpreter in the first line;
otherwise the extension itself has to do.
-/

namespace LineCensus

/-- Chooses between languages by the path and the content of a file; null is no choice. -/
abbrev Judge := Path → List UInt8 → List Value → Except LanguageFault Value

def scoreJudge {σ : Type} [LT σ] [DecidableLT σ] (score : Value → List Char → σ) : Judge :=
  fun _ content candidates => Content.guessBy score content candidates

def contentJudge : Judge := scoreJudge Content.score

/-- Finds the languages of files; without a judge, a shared extension says nothing.  If it is watched,
every answer is shown. -/
structure Detector where
  registry : Registry := .bundled
  judge : Option Judge := some contentJudge
  watched : Bool := false

inductive Placement where
  /-- The language is known, or known to be none. -/
  | settled (language : Value)
  /-- Several languages share the extension. -/
  | shared (extension : String) (candidates : List Value)
  | unlisted (extension : String)
  deriving DecidableEq

namespace Detector

def knownNames : Table String :=
  [("meson.build", "Meson"), ("meson_options.txt", "Meson"), ("CMakeLists.txt", "CMake"),
   ("configure.ac", "M4"), ("Makefile.am", "Makefile"), ("build.xml", "Ant"), ("pom.xml", "Maven")]

/-- Files of a language of their own, by name in lower case; some are of none. -/
def knownLowerNames : Table Value :=
  [("makefile", .text "Makefile"), ("nukefile", .text "Nu"), ("rebar", .null)]

/-- Shared extensions whose files are of one language, once a judge has an answer at all. -/
def siblings : Table String :=
  [("mo", "Motoko")]

def placement (r : Detector) (p : Path) : Placement :=
  match knownNames.find? p.name, knownLowerNames.find? (Text.lower p.name) with
  | some language, _ => .settled (.text language)
  | none, some language => .settled language
  | none, none =>
    match r.registry.shared.find? p.extension, r.registry.extensions.find? p.extension with
    | some candidates, _ => .shared p.extension candidates
    | none, some language => .settled language
    | none, none => .unlisted p.extension

def accept (r : Detector) (ext : String) (candidates : List Value) (answer : Value) :
    Except LanguageFault Value :=
  if answer.isNothing then .ok .null
  else
    match siblings.find? ext with
    | some language => .ok (.text language)
    | none => (r.registry.answerTo answer).map fun language =>
      if candidates.any (Value.sameKey · language) then language else .null

def cutLine (content : List UInt8) : List UInt8 :=
  content.takeWhile (· != 0x0a)

/-- The word for the interpreter that a first line names.  White space in front does not count, and
a line that holds the mark alone names none. -/
def interpreterWord? (line : List UInt8) : Option String :=
  let text := Text.trimStart (Text.Utf8.decodeDropping line)
  if 2 < text.length then Shebang.interpreter? text else none

/-- The language of the interpreter that a first line names; a program that is not listed stands
for itself. -/
def interpreterLanguage? (r : Detector) (line : List UInt8) : Option Value :=
  (interpreterWord? line).map fun word =>
    let language := r.registry.answerFor word
    if language.isNothing then .text word else language

/-- The language of a file with this content, and with this first line, which is cut from the
content if it is not given; without content, the file could not be read. -/
def languageOf (r : Detector) (p : Path) (content : Option (List UInt8))
    (line : Option (List UInt8) := content.map cutLine) : Except LanguageFault Value :=
  match r.placement p with
  | .settled language => .ok language
  | .shared ext candidates =>
    match r.judge, content with
    | some judge, some content => judge p content candidates >>= r.accept ext candidates
    | _, _ => .ok .null
  | .unlisted ext =>
    .ok ((line.bind r.interpreterLanguage?).getD (if ext.isEmpty then .null else .text ext))

def checked (r : Detector) (language : Value) : Except LanguageFault Value :=
  if r.watched && !language.isWritable then .error .unwritable else .ok language

theorem checked_of_writable {r : Detector} {language : Value} (h : language.isWritable = true) :
    r.checked language = .ok language := by
  rw [checked, h, Bool.not_true, Bool.and_false, if_neg Bool.false_ne_true]

/-- The language of a file.  If its content is not given, the file is read: the whole of it for a
judge, and no more than the first line for the name of an interpreter. -/
def detect (r : Detector) (t : FileTree) (p : Path) (content : Option (List UInt8)) :
    Except LanguageFault Value :=
  r.languageOf p (content.or (t.read p).toOption)
    ((content.map cutLine).or (t.readLine p).toOption) >>= r.checked

structure Undetected where
  spelled : String
  deriving DecidableEq, Repr

def Undetected.message (e : Undetected) : String :=
  "cannot determine the language of " ++ e.spelled

def detectOrFail (r : Detector) (t : FileTree) (spelled : String) (content : Option (List UInt8)) :
    Except LanguageFault (Except Undetected Value) :=
  (r.detect t (Path.ofString spelled) content).map fun language =>
    if language = .null then .error ⟨spelled⟩ else .ok language

end Detector

end LineCensus
