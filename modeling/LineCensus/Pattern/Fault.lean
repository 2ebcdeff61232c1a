import LineCensus.Text.Quoted

/-!
# What can be wrong with a pattern
-/

namespace LineCensus.Pattern

inductive Cause where
  | finalBackslash
  | badEscape (escape : String)
  | incompleteEscape (escape : String)
  | octalTooLarge (escape : String)
  | noNameBrace
  | unknownCharacterName (name : String)
  | noName (what : String)
  | unclosedName (terminator : Char)
  | badName (name : String)
  | unknownName (name : String)
  | repeatedName (name : String) (number earlier : Nat)
  | unclosedClass
  | badRange (low high : String)
  | nothingToRepeat
  | repeatedRepeat
  | emptyBounds
  | hugeBounds
  | endAfterQuestionMark
  | unknownExtension (mark : String)
  | unclosedGroup
  | unclosedComment
  | unopenedGroup
  | openGroup
  | groupWithinLookbehind
  | unknownGroup (number : Nat)
  | groupZero
  | thirdBranch
  | lateModes
  | unknownMode
  | localeMode
  | mixedAlphabets
  | offAlphabet
  | globalModeOn
  | globalModeOff
  | modeOnAndOff
  | modesUnfinished
  | noModeAfterDash
  | noColonAfterModes
  | looseLookbehind
  deriving DecidableEq, Repr

def Cause.text : Cause → String
  | .finalBackslash => "bad escape (end of pattern)"
  | .badEscape escape => "bad escape " ++ escape
  | .incompleteEscape escape => "incomplete escape " ++ escape
  | .octalTooLarge escape => s!"octal escape value {escape} outside of range 0-0o377"
  | .noNameBrace => "missing \x7b"
  | .unknownCharacterName name => "undefined character name " ++ Text.quoted name
  | .noName what => "missing " ++ what
  | .unclosedName terminator => s!"missing {terminator}, unterminated name"
  | .badName name => "bad character in group name " ++ Text.quoted name
  | .unknownName name => "unknown group name " ++ Text.quoted name
  | .repeatedName name number earlier =>
    s!"redefinition of group name {Text.quoted name} as group {number}; was group {earlier}"
  | .unclosedClass => "unterminated character set"
  | .badRange low high => s!"bad character range {low}-{high}"
  | .nothingToRepeat => "nothing to repeat"
  | .repeatedRepeat => "multiple repeat"
  | .emptyBounds => "min repeat greater than max repeat"
  | .hugeBounds => "the repetition number is too large"
  | .endAfterQuestionMark => "unexpected end of pattern"
  | .unknownExtension mark => "unknown extension ?" ++ mark
  | .unclosedGroup => "missing ), unterminated subpattern"
  | .unclosedComment => "missing ), unterminated comment"
  | .unopenedGroup => "unbalanced parenthesis"
  | .openGroup => "cannot refer to an open group"
  | .groupWithinLookbehind => "cannot refer to group defined in the same lookbehind subpattern"
  | .unknownGroup number => s!"invalid group reference {number}"
  | .groupZero => "bad group number"
  | .thirdBranch => "conditional backref with more than two branches"
  | .lateModes => "global flags not at the start of the expression"
  | .unknownMode => "unknown flag"
  | .localeMode => "bad inline flags: cannot use 'L' flag with a str pattern"
  | .mixedAlphabets => "bad inline flags: flags 'a', 'u' and 'L' are incompatible"
  | .offAlphabet => "bad inline flags: cannot turn off flags 'a', 'u' and 'L'"
  | .globalModeOn => "bad inline flags: cannot turn on global flag"
  | .globalModeOff => "bad inline flags: cannot turn off global flag"
  | .modeOnAndOff => "bad inline flags: flag turned on and off"
  | .modesUnfinished => "missing -, : or )"
  | .noModeAfterDash => "missing flag"
  | .noColonAfterModes => "missing :"
  | .looseLookbehind => "look-behind requires fixed-width pattern"

structure Fault where
  cause : Cause
  source : List Char
  position : Option Nat
  deriving DecidableEq, Repr

/-- The cause and the position; in a pattern of several lines, the line and the column too. -/
def Fault.message (f : Fault) : String :=
  match f.position with
  | none => f.cause.text
  | some position =>
    let message := s!"{f.cause.text} at position {position}"
    if f.source.contains '\n' then
      let before := f.source.take position
      let line := before.count '\n' + 1
      let column := (before.reverse.takeWhile (· != '\n')).length + 1
      s!"{message} (line {line}, column {column})"
    else message

end LineCensus.Pattern
