import LineCensus.FileTree
import LineCensus.Ignore.Rules

/-!
# Collecting files

A path to a file stands for the file.  A path to a directory stands for the files below it, as far
as they are not hidden, not ignored, and no links; the files of a directory come before those of
its subdirectories, both in the order of their names.  A file that is met again is not counted
again.
-/

namespace LineCensus

inductive CollectError where
  /-- There is nothing at a path. -/
  | missing (path : Path)
  | ignoring (error : Ignore.Error)
  deriving Repr

structure WalkOptions where
  includeHidden : Bool := false
  respectGitignore : Bool := true
  deriving DecidableEq, Repr

namespace Walk

def versionControl : List String :=
  [".git", ".hg", ".svn", ".bzr"]

def ignoreFile : String := ".gitignore"

def isHidden (name : String) : Bool :=
  name.startsWith "."

/-- What a walk below a directory goes by: whether hidden names count, and which paths, given by
their names below the directory, are ignored. -/
structure Rules where
  includeHidden : Bool
  ignores : List String → Except Ignore.Error Bool

def Rules.visible (r : Rules) (name : String) : Bool :=
  r.includeHidden || !isHidden name

def Rules.keepsFile (r : Rules) (above : List String) (name : String) :
    Except Ignore.Error Bool :=
  if r.visible name then (r.ignores (above ++ [name])).map (!·) else .ok false

def Rules.enters (r : Rules) (above : List String) (name : String) : Except Ignore.Error Bool :=
  if !versionControl.contains name && r.visible name then
    (r.ignores (above ++ [name])).map (!·)
  else .ok false

/-- The files among the entries of a directory.  Links are looked at, but never collected. -/
def filesOf (r : Rules) (above : List String) :
    List (String × FileNode) → Except Ignore.Error (List (List String))
  | [] => .ok []
  | (name, .file _) :: rest => do
    let keep ← r.keepsFile above name
    let others ← filesOf r above rest
    .ok (if keep then (above ++ [name]) :: others else others)
  | (name, .link _) :: rest => do
    let _ ← r.keepsFile above name
    filesOf r above rest
  | (_, .directory _) :: rest => filesOf r above rest

def below (r : Rules) (above : List String) :
    List (String × FileNode) → Except Ignore.Error (List (List String))
  | [] => .ok []
  | (name, .directory entries) :: rest => do
    let inside ←
      if ← r.enters above name then do
        let files ← filesOf r (above ++ [name]) entries
        let deeper ← below r (above ++ [name]) entries
        .ok (files ++ deeper)
      else .ok []
    let others ← below r above rest
    .ok (inside ++ others)
  | _ :: rest => below r above rest

def walk (r : Rules) (entries : List (String × FileNode)) :
    Except Ignore.Error (List (List String)) := do
  let files ← filesOf r [] entries
  let deeper ← below r [] entries
  .ok (files ++ deeper)

end Walk

namespace FileTree

def ignoreRules (t : FileTree) (o : WalkOptions) (directory : Path) :
    Except Ignore.Error (List Ignore.Rule) :=
  if o.respectGitignore then
    match t.read ((directory.absolute t.cwd).child Walk.ignoreFile) with
    | .ok content => Ignore.rulesOf content
    | .error _ => .ok []
  else .ok []

def filesAt (t : FileTree) (o : WalkOptions) (p : Path) : Except CollectError (List Path) :=
  match t.get p with
  | .error _ => .error (.missing p)
  | .ok (.directory entries) => (do
    let rules ← t.ignoreRules o p
    let found ← Walk.walk ⟨o.includeHidden, Ignore.ignores rules⟩ entries
    .ok (found.map fun names => { p with parts := p.parts ++ names })).mapError .ignoring
  | .ok _ => .ok [p]

/-- Adds a path to those found, unless it is there already or the filter is against it. -/
def collectOne (t : FileTree) (accepts : Path → Bool) (found : List Path) (p : Path) : List Path :=
  if found.any (fun q => q.absolute t.cwd == p.absolute t.cwd) || !accepts p then found
  else found ++ [p]

def collect (t : FileTree) (o : WalkOptions) (accepts : Path → Bool) (paths : List Path) :
    Except CollectError (List Path) :=
  paths.foldlM (fun found p => do
    let files ← t.filesAt o p
    .ok (files.foldl (t.collectOne accepts) found)) []

end FileTree

end LineCensus
