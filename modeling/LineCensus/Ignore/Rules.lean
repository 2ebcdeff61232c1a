import LineCensus.Ignore.Glob
import LineCensus.Pattern.Match
import LineCensus.Pattern.Parse
import LineCensus.Registry.Load
import LineCensus.Text.Split

/-!
# Ignore files

The rules of an ignore file say which paths below its directory are passed over.  If a rule brings
paths back, the last rule that matches a path decides; otherwise any rule will do.
-/

namespace LineCensus.Ignore

inductive Error where
  | notText (error : Text.Utf8.DecodeError)
  | badGlob (error : GlobError)
  /-- A class of characters that is no class; this shows when a path is looked at. -/
  | badPattern (fault : Pattern.Fault)
  deriving Repr

structure Rule where
  negated : Bool
  pattern : Except Pattern.Fault Pattern.Compiled

/-- The rule of a line; a blank line, a comment and a single slash are none. -/
def ruleOfLine (line : List Char) : Except Error (Option Rule) :=
  match line with
  | '#' :: _ => .ok none
  | line =>
    if (Text.trim line).isEmpty then .ok none
    else
      let negated := line.head? == some '!'
      let line := joinStarsBefore false (joinStarsAfter false (if negated then line.drop 1 else line))
      if Text.trimEnd line == ['/'] then .ok none
      else
        match rule negated line with
        | .ok glob => .ok (some ⟨glob.negated, Pattern.parse glob.regex⟩)
        | .error e => .error (.badGlob e)

def rulesOf (content : List UInt8) : Except Error (List Rule) := do
  let text ← (Registry.fileText content).mapError .notText
  let rules ← (Text.splitAt '\n' text).mapM ruleOfLine
  .ok (rules.filterMap id)

/-- Whether a rule matches a path, which is given by its names below the directory. -/
def Rule.matches? (r : Rule) (names : List String) : Except Error Bool :=
  match r.pattern with
  | .ok p =>
    let path := if names.isEmpty then "." else "/".intercalate names
    .ok (Pattern.found p.modes p.pattern path.toList)
  | .error fault => .error (.badPattern fault)

def anyMatches (names : List String) : List Rule → Except Error Bool
  | [] => .ok false
  | r :: rest => do
    if ← r.matches? names then .ok true else anyMatches names rest

/-- Whether the first rule that matches is one that ignores. -/
def firstIgnores (names : List String) : List Rule → Except Error Bool
  | [] => .ok false
  | r :: rest => do
    if ← r.matches? names then .ok !r.negated else firstIgnores names rest

def ignores (rules : List Rule) (names : List String) : Except Error Bool :=
  if rules.any (·.negated) then firstIgnores names rules.reverse else anyMatches names rules

end LineCensus.Ignore
