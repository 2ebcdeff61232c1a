import LineCensus.Text.Split

/-!
# Paths

A path as it is spelled, without the components that say nothing: empty ones and single dots.
Two slashes in front are kept apart from one; three or more are the same as one.
-/

namespace LineCensus

inductive PathRoot where
  | relative
  | slash
  | doubleSlash
  deriving DecidableEq, Repr

/-- A path: where it starts, and its components, none of them empty or a single dot. -/
structure Path where
  root : PathRoot := .relative
  parts : List String := []
  deriving DecidableEq, Repr

namespace Path

def rootOf (s : List Char) : PathRoot :=
  match s with
  | '/' :: '/' :: '/' :: _ => .slash
  | '/' :: '/' :: _ => .doubleSlash
  | '/' :: _ => .slash
  | _ => .relative

def meaningful (parts : List String) : List String :=
  parts.filter fun part => part != "" && part != "."

def ofString (s : String) : Path :=
  ⟨rootOf s.toList, meaningful (Text.split '/' s)⟩

def PathRoot.text : PathRoot → String
  | .relative => ""
  | .slash => "/"
  | .doubleSlash => "//"

def text (p : Path) : String :=
  match p.root, p.parts with
  | .relative, [] => "."
  | root, parts => PathRoot.text root ++ "/".intercalate parts

instance : ToString Path where
  toString := text

/-- The last component; a path without components has an empty name. -/
def name (p : Path) : String :=
  p.parts.getLast?.getD ""

/-- What follows the last dot of a name, unless that dot is its first or its last character. -/
def extensionOf (name : List Char) : List Char :=
  let ext := (name.reverse.takeWhile (· != '.')).reverse
  if ext.isEmpty || name.length ≤ ext.length + 1 then [] else ext

def extension (p : Path) : String :=
  String.ofList (extensionOf p.name.toList)

def parent (p : Path) : Path :=
  { p with parts := p.parts.dropLast }

def child (p : Path) (name : String) : Path :=
  { p with parts := p.parts ++ [name] }

/-- Components in reverse, without those that a following `..` takes back; above the root there is
only the root. -/
def collapse (found : List String) : List String → List String
  | [] => found
  | part :: rest =>
    if part = ".." then collapse found.tail rest else collapse (part :: found) rest

def absolute (cwd : List String) (p : Path) : Path :=
  match p.root with
  | .relative => ⟨.slash, (collapse [] (cwd ++ p.parts)).reverse⟩
  | root => ⟨root, (collapse [] p.parts).reverse⟩

end Path

end LineCensus
