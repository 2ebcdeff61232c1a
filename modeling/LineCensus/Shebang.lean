import LineCensus.Table
import LineCensus.Text.Blank
import LineCensus.Text.Split

/-!
# Interpreter lines

The first line of a script may name the program that runs it: after `#!`, as the last component of
a path, or as the argument of the program `env`.
-/

namespace LineCensus.Shebang

/-- The letters that programs are named by; digits and dots after them are a version. -/
def isLetter (c : Char) : Bool :=
  c.isAlpha

def isPathChar (c : Char) : Bool :=
  c == '.' || c == '/' || isLetter c

def programName? (s : List Char) : Option (List Char) :=
  let name := s.takeWhile isLetter
  if name.isEmpty then none else some name

/-- The argument of `env`, which is given by a path and followed by one space. -/
def envArgument? (command : List Char) : Option (List Char) :=
  let path := command.takeWhile (!Text.isBlank ·)
  if "/env".toList.isSuffixOf path && path.length > 4 then
    match command.drop path.length with
    | ' ' :: rest => programName? rest
    | _ => none
  else none

/-- The last component of a path that starts with a letter.  A slash that is the first character
of the path starts no component. -/
def lastComponent? (command : List Char) : Option (List Char) :=
  let path := command.takeWhile isPathChar
  (Text.splitAt '/' (path.drop 1)).tail.reverse.findSome? programName?

/-- Programs whose language is listed under another word. -/
def aliases : Table String :=
  [("gosh", "scm"), ("make", "make"), ("perl", "pl"), ("rc", "plan9sh"), ("python", "py"),
   ("ruby", "rb"), ("escript", "erl")]

def wordFor (program : List Char) : String :=
  let name := String.ofList program
  (aliases.find? name).getD name

def interpreter? : List Char → Option String
  | '#' :: '!' :: rest =>
    let command := rest.dropWhile (· == ' ')
    ((envArgument? command).or (lastComponent? command)).map wordFor
  | _ => none

end LineCensus.Shebang
