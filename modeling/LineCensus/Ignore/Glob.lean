/-!
# Glob patterns

The patterns of ignore files, as regular expressions.  A star stands for any part of a name, two
stars for any part of a path, a question mark for one character of a name, and brackets for a
class of characters.
-/

namespace LineCensus.Ignore

/-- Why a line of an ignore file is no rule. -/
inductive GlobError where
  /-- Nothing is left of the line where a character is needed. -/
  | tooShort
  deriving DecidableEq, Repr

/-- Two stars or more after a character of a name become one. -/
def joinStarsAfter (dropping : Bool) : List Char → List Char
  | [] => []
  | c :: rest =>
    if dropping && c == '*' then joinStarsAfter true rest
    else if c != '/' && rest.take 2 == ['*', '*'] then c :: '*' :: joinStarsAfter true rest
    else c :: joinStarsAfter false rest

/-- Two stars or more before a character of a name become one; before a slash or at the end, two
remain. -/
def joinStarsBefore (dropping : Bool) : List Char → List Char
  | [] => []
  | c :: rest =>
    if c == '*' then
      if dropping then joinStarsBefore true rest
      else if rest.head? == some '*' then
        match rest.dropWhile (· == '*') with
        | [] | '/' :: _ => '*' :: '*' :: joinStarsBefore true rest
        | _ => '*' :: joinStarsBefore true rest
      else c :: joinStarsBefore false rest
    else c :: joinStarsBefore false rest

/-- Drops the spaces at the end of a line, which is in reverse order; the first two characters
stay.  A space after a backslash stays, too, without the backslash, and so do the spaces before
it. -/
def dropFinalSpaces (strip : Bool) (kept : List Char) : (reversed : List Char) → List Char
  | ' ' :: '\\' :: c :: rest => dropFinalSpaces false (' ' :: kept) (c :: rest)
  | ' ' :: b :: c :: rest =>
    dropFinalSpaces strip (if strip then kept else ' ' :: kept) (b :: c :: rest)
  | reversed => reversed.reverse ++ kept

def needsEscape (c : Char) : Bool :=
  "()[]\x7b\x7d?*+-|^$\\.&~# \t\n\r\x0b\x0c".toList.contains c

def literal (c : Char) : List Char :=
  if needsEscape c then ['\\', c] else [c]

/-- The number of characters between an opening bracket and the bracket that closes it.  An
exclamation mark and then a closing bracket may stand in front. -/
def classLength? (s : List Char) : Option Nat :=
  let marks := if s.head? == some '!' then 1 else 0
  let lead := if s[marks]? == some ']' then marks + 1 else marks
  let body := (s.drop lead).takeWhile (· != ']')
  if lead + body.length < s.length then some (lead + body.length) else none

def classBody (s : List Char) : Except GlobError (List Char) :=
  let body := (s.flatMap fun c => if c == '\\' then ['\\', '\\'] else [c]).filter (· != '/')
  match body with
  | [] => .error .tooShort
  | '!' :: rest => .ok ('^' :: rest)
  | '^' :: rest => .ok ('\\' :: '^' :: rest)
  | body => .ok body

/-- The regular expression for a glob pattern, without its ends.  The measure bounds the number
of steps. -/
def expand (fuel : Nat) (glob : List Char) : Except GlobError (List Char) :=
  match fuel with
  | 0 => .ok []
  | fuel + 1 =>
    let continue_ (text : String) (rest : List Char) : Except GlobError (List Char) :=
      (expand fuel rest).map (text.toList ++ ·)
    match glob with
    | [] => .ok []
    | '*' :: '*' :: '/' :: rest => continue_ "(.*[/])?" rest
    | '*' :: '*' :: rest => continue_ ".*" rest
    | '*' :: rest => continue_ "[^/]*" rest
    | '?' :: rest => continue_ "[^/]" rest
    | '/' :: rest => continue_ "[/]" rest
    | '[' :: rest =>
      match classLength? rest with
      | none => continue_ "\\[" rest
      | some n => do
        let body ← classBody (rest.take n)
        let tail ← expand fuel (rest.drop (n + 1))
        .ok ('[' :: body ++ ']' :: tail)
    | c :: rest => (expand fuel rest).map (literal c ++ ·)

structure Glob where
  /-- A match brings back what another rule ignores. -/
  negated : Bool
  /-- The regular expression for paths. -/
  regex : List Char
  deriving DecidableEq, Repr

def head (s : List Char) : Except GlobError Char :=
  match s with
  | [] => .error .tooShort
  | c :: _ => .ok c

def dropSlash (s : List Char) : Except GlobError (List Char) := do
  let c ← head s
  .ok (if c == '/' then s.drop 1 else s)

def dropStars (s : List Char) : Except GlobError (List Char × Bool) := do
  let c ← head s
  .ok (if c == '*' && s[1]? == some '*' then (s.drop 2, true) else (s, false))

/-- Drops a backslash before a first character that would otherwise mean something. -/
def dropMarkEscape (s : List Char) : Except GlobError (List Char) :=
  match s with
  | [] | ['\\'] => .error .tooShort
  | '\\' :: c :: rest => .ok (if c == '#' || c == '!' then c :: rest else s)
  | s => .ok s

def frame (anchored directoryOnly negated : Bool) (body : List Char) : List Char :=
  let start := if anchored then "^" else "(^|[/])"
  let stop := if !directoryOnly then "$" else if negated then "/$" else "($|\\/)"
  start.toList ++ body ++ stop.toList

def rule (negated : Bool) (s : List Char) : Except GlobError Glob := do
  let last ← head s.reverse
  let directoryOnly := last == '/'
  let anchored := s.dropLast.contains '/'
  let s ← dropSlash s
  let (s, starred) ← dropStars s
  let s ← dropSlash s
  let last ← head s.reverse
  let s := if last == '/' then s.dropLast else s
  let s ← dropMarkEscape s
  let s := dropFinalSpaces true [] s.reverse
  let body ← expand (s.length + 1) s
  .ok ⟨negated, frame (anchored && !starred) directoryOnly negated body⟩

end LineCensus.Ignore
