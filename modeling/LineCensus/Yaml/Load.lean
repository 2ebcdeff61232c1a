import LineCensus.Yaml.Node
import LineCensus.Yaml.Scalar
import LineCensus.Yaml.Token.Scan

/-!
# From a YAML text to a value

A tag of the standard says what a node is; other tags are refused.  A mapping takes the last value
that is given for a key.  The key `<<` takes over the entries of other mappings, which give way to
the entries of the mapping itself.  Nodes are made into values level by level, so of several that
cannot be made, one at the highest level counts, and the first of those.
-/

namespace LineCensus.Yaml

/-- What is made of nodes; an error comes with its level. -/
abbrev Made (α : Type) := Except (Nat × Error) α

namespace Made

variable {α β : Type}

def fail (e : Error) : Made α :=
  .error (0, e)

def inside (x : Made α) : Made α :=
  x.mapError fun (level, e) => (level + 1, e)

/-- Both; of two errors, the one at the higher level, or else the first. -/
def both (x : Made α) (y : Made β) : Made (α × β) :=
  match x, y with
  | .ok a, .ok b => .ok (a, b)
  | .ok _, .error e => .error e
  | .error e, .ok _ => .error e
  | .error e, .error f => .error (if f.1 < e.1 then f else e)

end Made

namespace Node

/-- The name of the tag of a node, if it is of the standard; `type` says what a node without a tag
is. -/
def tagName (tag : Option String) (type : String) : Option String :=
  match tag with
  | none => some type
  | some tag =>
    if (standardTag "").isPrefixOf tag then some ((tag.drop (standardTag "").length).toString)
    else none

def scalarTag (tag : Option String) (plain : Bool) (text : String) : Option String :=
  tagName tag (if plain then Scalar.plainTag text else "str")

def isMergeKey : Node → Bool
  | .scalar tag plain text => scalarTag tag plain text == some "merge"
  | _ => false

/-- Whether the node is the key that stands for the value of a mapping as a scalar. -/
def isValueKey : Node → Bool
  | .scalar tag plain text => scalarTag tag plain text == some "value"
  | _ => false

mutual

def text? : Node → Option String
  | .scalar _ _ text => some text
  | .sequence _ _ => none
  | .mapping _ entries => valueText? entries

def valueText? : List (Node × Node) → Option String
  | [] => none
  | (key, value) :: rest => if key.isValueKey then value.text? else valueText? rest

end

mutual

/-- Whether everything that is to be taken over is a mapping or a list of mappings. -/
def canMerge : List (Node × Node) → Bool
  | [] => true
  | (key, value) :: rest => (!key.isMergeKey || value.isMergeable) && canMerge rest

def isMergeable : Node → Bool
  | .scalar _ _ _ => false
  | .sequence _ items => areMappings items
  | .mapping _ entries => canMerge entries

def areMappings : List Node → Bool
  | [] => true
  | .mapping _ entries :: rest => canMerge entries && areMappings rest
  | _ :: _ => false

end

/-- A key is a scalar; one that stands for a value is a text. -/
def keyValue (key : Node) : Made Value :=
  match key with
  | .scalar tag plain text =>
    match scalarTag tag plain text with
    | some "value" => .ok (.text text)
    | some name => (Scalar.ofTag name text).mapError (0, ·)
    | none => .fail (.malformed .badContent)
  | _ => .fail (.malformed .compoundKey)

/-- The entries of a mapping: first those taken over, then its own. -/
def gather (merged own : List (Value × Value)) : List (Value × Value) :=
  (merged ++ own).foldl (fun entries (k, v) => Value.setEntry entries k v) []

def isScalarTag (name : String) : Bool :=
  ["str", "null", "bool", "int", "float", "binary", "timestamp"].contains name

def collectionText (text : Option String) (name : String) : Made Value :=
  match text with
  | some text => (Scalar.ofTag name text).mapError (0, ·)
  | none => .fail (.malformed .badContent)

mutual

def value : Node → Made Value
  | .scalar tag plain text =>
    match scalarTag tag plain text with
    | some "seq" | some "map" | some "set" | some "omap" | some "pairs" =>
      .error (1, .malformed .badContent)
    | some name => (Scalar.ofTag name text).mapError (0, ·)
    | none => .fail (.malformed .badContent)
  | .sequence tag items =>
    match tagName tag "seq" with
    | some "seq" => (Made.inside (values items)).map .list
    | some "omap" | some "pairs" => (Made.inside (pairs items)).map .list
    | some "map" | some "set" => .error (1, .malformed .badContent)
    | _ => .fail (.malformed .badContent)
  | .mapping tag entries =>
    let found : Made (List (Value × Value)) :=
      if canMerge entries then
        (Made.inside (Made.both (mergedEntries entries) (ownEntries entries))).map fun parts =>
          gather parts.1 parts.2
      else .error (1, .malformed .badContent)
    match tagName tag "map" with
    | some "map" => found.map .mapping
    | some "set" => found.map fun entries => .set (entries.map Prod.fst)
    | some "seq" | some "omap" | some "pairs" => .error (1, .malformed .badContent)
    | some name =>
      if isScalarTag name then collectionText (valueText? entries) name
      else .fail (.malformed .badContent)
    | none => .fail (.malformed .badContent)

def values : List Node → Made (List Value)
  | [] => .ok []
  | item :: rest => (Made.both item.value (values rest)).map fun (v, vs) => v :: vs

def pairs : List Node → Made (List Value)
  | [] => .ok []
  | .mapping _ [(key, value)] :: rest =>
    (Made.both (Made.both key.value value.value) (pairs rest)).map fun ((k, v), vs) =>
      .tuple [k, v] :: vs
  | _ :: _ => .fail (.malformed .badContent)

def ownEntries : List (Node × Node) → Made (List (Value × Value))
  | [] => .ok []
  | (key, value) :: rest =>
    if key.isMergeKey then ownEntries rest
    else
      (Made.both (Made.both (keyValue key) value.value) (ownEntries rest)).map fun (e, es) => e :: es

/-- The entries that a mapping takes over, the ones that give way first. -/
def mergedEntries : List (Node × Node) → Made (List (Value × Value))
  | [] => .ok []
  | (key, value) :: rest =>
    if key.isMergeKey then
      (Made.both value.allEntries (mergedEntries rest)).map fun (es, more) => es ++ more
    else mergedEntries rest

/-- All entries of a mapping, or of the mappings of a list; those of the first come last. -/
def allEntries : Node → Made (List (Value × Value))
  | .scalar _ _ _ => .ok []
  | .sequence _ items => listedEntries items
  | .mapping _ entries =>
    (Made.both (mergedEntries entries) (ownEntries entries)).map fun (es, more) => es ++ more

def listedEntries : List Node → Made (List (Value × Value))
  | [] => .ok []
  | item :: rest =>
    (Made.both (listedEntries rest) item.allEntries).map fun (more, es) => more ++ es

end

end Node

def load (text : List Char) : Except Error Value := do
  let tokens ← Token.scan text
  match ← Node.ofTokens tokens with
  | some node => node.value.mapError Prod.snd
  | none => .ok .null

end LineCensus.Yaml
