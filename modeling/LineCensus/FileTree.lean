import LineCensus.Path

/-!
# File trees

Directories with files, further directories and symbolic links, as a value.  The entries of a
directory are in the order of their names.
-/

namespace LineCensus

inductive FileNode where
  | file (content : List UInt8)
  | directory (entries : List (String × FileNode))
  | link (target : String)

/-- A tree of files, and the directory in it, from the root, that relative paths start in. -/
structure FileTree where
  root : List (String × FileNode) := []
  cwd : List String := []

inductive FileError where
  | notFound
  | notDirectory
  | isDirectory
  | exists
  | tooManyLinks
  deriving DecidableEq, Repr

def FileError.message : FileError → String
  | .notFound => "No such file or directory"
  | .notDirectory => "Not a directory"
  | .isDirectory => "Is a directory"
  | .exists => "File exists"
  | .tooManyLinks => "Too many levels of symbolic links"

namespace FileNode

def entry? (entries : List (String × FileNode)) (name : String) : Option FileNode :=
  (entries.find? (·.1 == name)).map Prod.snd

def setEntry (entries : List (String × FileNode)) (name : String) (node : FileNode) :
    List (String × FileNode) :=
  match entries with
  | [] => [(name, node)]
  | (other, old) :: rest =>
    if other = name then (name, node) :: rest
    else if name < other then (name, node) :: (other, old) :: rest
    else (other, old) :: setEntry rest name node

def find? (entries : List (String × FileNode)) : List String → Option FileNode
  | [] => some (.directory entries)
  | [name] => entry? entries name
  | name :: rest =>
    match entry? entries name with
    | some (.directory entries) => find? entries rest
    | _ => none

def insert (entries : List (String × FileNode)) (names : List String) (node : FileNode) :
    List (String × FileNode) :=
  match names with
  | [] => entries
  | [name] => setEntry entries name node
  | name :: rest =>
    match entry? entries name with
    | some (.directory inner) => setEntry entries name (.directory (insert inner rest node))
    | _ => setEntry entries name (.directory (insert [] rest node))

end FileNode

namespace FileTree

def linkLimit : Nat := 40

/-- Follows `todo` from the directory `place`, whose names are in reverse order.  The last name
may be a link that is not followed.  The outcome is the reversed names of a node, which may be
missing. -/
def walkTo (root : List (String × FileNode)) (followLast : Bool) (links : Nat)
    (place todo : List String) : Except FileError (List String) :=
  match todo with
  | [] => .ok place
  | name :: rest =>
    match FileNode.find? root place.reverse with
    | some (.directory entries) =>
      if name = "" || name = "." then walkTo root followLast links place rest
      else if name = ".." then walkTo root followLast links place.tail rest
      else
        match FileNode.entry? entries name with
        | none => if rest.isEmpty then .ok (name :: place) else .error .notFound
        | some (.link target) =>
          if rest.isEmpty && !followLast then .ok (name :: place)
          else
            match links with
            | 0 => .error .tooManyLinks
            | links + 1 =>
              let parts := Text.split '/' target
              if target.isEmpty then .error .notFound
              else if target.startsWith "/" then walkTo root followLast links [] (parts ++ rest)
              else walkTo root followLast links place (parts ++ rest)
        | some _ => walkTo root followLast links (name :: place) rest
    | some _ => .error .notDirectory
    | none => .error .notFound
termination_by (links, todo.length)

def locate (t : FileTree) (followLast : Bool) (p : Path) : Except FileError (List String) :=
  let start :=
    match p.root with
    | .relative => t.cwd.reverse
    | _ => []
  walkTo t.root followLast linkLimit start p.parts

def get (t : FileTree) (p : Path) : Except FileError FileNode := do
  let place ← t.locate true p
  match FileNode.find? t.root place.reverse with
  | some node => .ok node
  | none => .error .notFound

/-- The node that a path leads to as it is spelled: only a directory can be followed by a slash,
and the empty text is no path. -/
def getSpelled (t : FileTree) (spelled : String) : Except FileError FileNode := do
  if spelled.isEmpty then .error .notFound
  else
    let start := if spelled.startsWith "/" then [] else t.cwd.reverse
    let place ← walkTo t.root true linkLimit start (Text.split '/' spelled)
    match FileNode.find? t.root place.reverse with
    | some node => .ok node
    | none => .error .notFound

def has (t : FileTree) (p : Path) : Bool :=
  match t.get p with
  | .ok _ => true
  | .error _ => false

def entries? (t : FileTree) (p : Path) : Option (List (String × FileNode)) :=
  match t.get p with
  | .ok (.directory entries) => some entries
  | _ => none

def isDirectory (t : FileTree) (p : Path) : Bool :=
  (t.entries? p).isSome

def isFile (t : FileTree) (p : Path) : Bool :=
  match t.get p with
  | .ok (.file _) => true
  | _ => false

def read (t : FileTree) (p : Path) : Except FileError (List UInt8) := do
  match ← t.get p with
  | .file content => .ok content
  | .directory _ => .error .isDirectory
  | .link _ => .error .notFound

/-- The first line of bytes, up to and with the line feed that ends it. -/
def headLine (content : List UInt8) : List UInt8 :=
  content.takeWhile (· != 0x0a) ++ (content.dropWhile (· != 0x0a)).take 1

def readLine (t : FileTree) (p : Path) : Except FileError (List UInt8) :=
  (t.read p).map headLine

def insert (t : FileTree) (p : Path) (node : FileNode) : FileTree :=
  { t with root := FileNode.insert t.root (p.absolute t.cwd).parts node }

def write (t : FileTree) (p : Path) (content : List UInt8) : Except FileError FileTree := do
  let place ← t.locate true p
  match FileNode.find? t.root place.reverse with
  | some (.directory _) => .error .isDirectory
  | _ =>
    match FileNode.find? t.root place.tail.reverse with
    | some (.directory _) =>
      .ok { t with root := FileNode.insert t.root place.reverse (.file content) }
    | _ => .error .notFound

def makeDirectory (t : FileTree) (p : Path) : Except FileError FileTree := do
  let place ← t.locate false p
  match FileNode.find? t.root place.reverse with
  | some _ => .error .exists
  | none =>
    match FileNode.find? t.root place.tail.reverse with
    | some (.directory _) =>
      .ok { t with root := FileNode.insert t.root place.reverse (.directory []) }
    | _ => .error .notFound

/-- Makes a directory, and the directories around it as far as they are missing; `depth` bounds
their number.  A directory that is there already will do.  What has been made stays if the rest
fails. -/
def makeDirectories (t : FileTree) (p : Path) (depth : Nat) : FileTree × Option FileError :=
  match t.makeDirectory p, depth with
  | .ok t, _ => (t, none)
  | .error .notFound, depth + 1 =>
    match t.makeDirectories p.parent depth with
    | (t, none) => t.makeDirectories p 0
    | failed => failed
  | .error e, _ => (t, if t.isDirectory p then none else some e)
termination_by depth

end FileTree

end LineCensus
