import LineCensus.CommandLine.Run

/-!
# The program

Takes in the files that the arguments name, runs the command line on them, and writes what comes
of it.
-/

open LineCensus

/-- Adds what is at a path to a tree: a file, a directory with all that is in it, or a link
together with what it leads to.  Directories of version control stay empty. -/
partial def takeIn (tree : FileTree) (spelled : String) : IO FileTree := do
  let place := (← IO.currentDir) / spelled
  let path := Path.ofString spelled
  let found : Option IO.FS.Metadata ←
    try some <$> place.symlinkMetadata catch _ => pure none
  match found.map IO.FS.Metadata.type with
  | none => return tree
  | some .other => return tree
  | some .file => return tree.insert path (.file (← IO.FS.readBinFile place).toList)
  | some .symlink =>
    let target ← try some <$> IO.FS.realPath place catch _ => pure none
    match target with
    | none => return tree.insert path (.link "")
    | some target =>
      let tree := tree.insert path (.link target.toString)
      if tree.has (Path.ofString target.toString) then return tree
      else takeIn tree target.toString
  | some .dir =>
    let start := if tree.isDirectory path then tree else tree.insert path (.directory [])
    if Walk.versionControl.contains path.name then return start
    else
      let mut tree := start
      for entry in ← place.readDir do
        tree ← takeIn tree (path.child entry.fileName).text
      return tree

/-- The tree of all that the arguments may need: what they name, and the configuration beside
it. -/
def treeFor (args : List String) : IO FileTree := do
  let cwd := (Path.ofString (← IO.currentDir).toString).parts
  let mut tree : FileTree := FileTree.insert { cwd } {} (.directory [])
  for arg in args do
    let named := (Text.split '=' arg).getLastD arg
    for spelled in [arg, named, ((Path.ofString arg).parent.child Settings.fileName).text] do
      if !spelled.isEmpty then
        tree ← takeIn tree spelled
  return tree

def writeReport (before after : FileTree) (args : List String) : IO Unit := do
  match CommandLine.Request.ofArgs before args with
  | .ok (.count request) =>
    match request.outputFile with
    | none => return
    | some path =>
      match after.read path with
      | .ok content =>
        IO.FS.createDirAll path.parent.text
        IO.FS.writeBinFile path.text content.toByteArray
      | .error _ => return
  | _ => return

def main (args : List String) : IO UInt32 := do
  let tree ← treeFor args
  let outcome := CommandLine.runArgs .plain tree args
  if outcome.exitCode = 0 then
    writeReport tree outcome.tree args
  (← IO.getStdout).putStr outcome.output
  (← IO.getStderr).putStr outcome.messages
  if outcome.accident.isSome then
    (← IO.getStderr).putStr "The command could not be completed.\n"
  return UInt32.ofNat outcome.exitCode
