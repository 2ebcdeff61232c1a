import LineCensus.FileTree
import LineCensus.Registry.Load
import LineCensus.Table

/-!
# Configuration files

A directory may hold a file with defaults for the options of a count.  What is no document, or no
mapping, is passed over, but a file that is no text is an error, and so is a value that cannot be made.
-/

namespace LineCensus.Settings

def fileName : String := ".codeloc.yaml"

/-- Why a configuration file cannot be passed over. -/
inductive Unusable where
  | notText (error : Text.Utf8.DecodeError)
  /-- The text is a document, and a value in it cannot be made. -/
  | notRead (error : Yaml.Error)

def entriesOf : Value → List (Value × Value)
  | .mapping entries => entries
  | _ => []

def ofBytes (parse : Yaml.Reader) (content : List UInt8) :
    Except Unusable (List (Value × Value)) := do
  let text ← (Registry.fileText content).mapError .notText
  match parse text with
  | .ok document => .ok (entriesOf document)
  | .error (.malformed _) => .ok []
  | .error e => .error (.notRead e)

def load (parse : Yaml.Reader) (tree : FileTree) (directory : Path) :
    Except Unusable (List (Value × Value)) :=
  let file := directory.child fileName
  if tree.isFile file then
    match tree.read file with
    | .ok content => ofBytes parse content
    | .error _ => .ok []
  else .ok []

/-- The directory whose configuration applies: the first path if it is a directory, else its
parent. -/
def directoryFor (tree : FileTree) : List Path → Path
  | [] => {}
  | p :: _ => if tree.isDirectory p then p else p.parent

/-- Whether a value on the command line leaves the configuration alone. -/
def isUnset : Value → Bool
  | .mapping _ | .set _ | .bytes _ => false
  | v => v.isNothing

/-- The section of a command, with the values of the command line over it. -/
def overlay (config : List (Value × Value)) (command : String) (arguments : List (String × Value)) :
    List (Value × Value) :=
  let sectionEntries :=
    match Value.entry? config command with
    | some (.mapping entries) => entries
    | _ => []
  (arguments.filter fun (_, v) => !isUnset v).foldl
    (fun entries (name, v) => Value.setEntry entries (.text name) v) sectionEntries

end LineCensus.Settings
