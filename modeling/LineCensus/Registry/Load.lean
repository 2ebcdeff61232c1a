import LineCensus.Grammar.Fields
import LineCensus.Registry
import LineCensus.Text.DecodeMessage
import LineCensus.Yaml.Fault

/-!
# Tables of further languages

A file in the form of the bundled table adds languages and extensions to it; entries of the same
name are replaced.
-/

namespace LineCensus.Registry

inductive LoadError where
  | notText (error : Text.Utf8.DecodeError)
  | notRead (error : Yaml.Error)
  | notMapping (file : String)
  | languagesNotMapping
  /-- The fields of a language are no mapping from texts, or they name it again. -/
  | badFields
  | invalid (error : Schema.Invalid)
  /-- A section of extensions holds what are no entries. -/
  | notEntries
  /-- An entry has another number of parts than two. -/
  | badEntry (index length : Nat)

def LoadError.message : LoadError → Option String
  | .notText e => some e.message
  | .notRead (.badValue message) => some message
  | .notMapping file => some s!"{file}: expected a mapping at top level"
  | .invalid e => some e.summary
  | .badEntry index length =>
    some s!"dictionary update sequence element #{index} has length {length}; 2 is required"
  | _ => none

def unifyBreaks : List Char → List Char → List Char
  | found, [] => found.reverse
  | found, '\r' :: '\n' :: rest => unifyBreaks ('\n' :: found) rest
  | found, '\r' :: rest => unifyBreaks ('\n' :: found) rest
  | found, c :: rest => unifyBreaks (c :: found) rest

def fileText (content : List UInt8) : Except Text.Utf8.DecodeError (List Char) :=
  (Text.Utf8.decode content).map (unifyBreaks [])

/-- The section of a document; a section that counts as nothing is empty. -/
def part (document : List (Value × Value)) (name : String) : Value :=
  match Value.entry? document name with
  | some v => if v.isNothing then .mapping [] else v
  | none => .mapping []

def givenFields (v : Value) : Except LoadError Schema.Fields :=
  let given : Value := if v.isNothing then .mapping [] else v
  match given with
  | .mapping entries => entries.mapM fun (k, v) =>
    match k with
    | .text name => if name = "name" then .error .badFields else .ok (name, v)
    | _ => .error .badFields
  | _ => .error .badFields

/-- The grammar of an entry.  The key is its name. -/
def grammarOf (entry : Value × Value) : Except LoadError Grammar := do
  let fields ← givenFields entry.2
  (Grammar.ofFields (("name", entry.1) :: fields)).mapError .invalid

def grammarsOf : Value → Except LoadError (List Grammar)
  | .mapping entries => entries.mapM grammarOf
  | _ => .error .languagesNotMapping

def characters (s : String) : List Value :=
  s.toList.map fun c => .text (String.singleton c)

/-- The parts of a value: the items of a list or a set, the characters of a text, the numbers of
bytes, or the keys of a mapping. -/
def partsOf? : Value → Option (List Value)
  | .list items | .tuple items | .set items => some items
  | .text s => some (characters s)
  | .bytes content => some (content.map fun b => .int b.toNat)
  | .mapping entries => some (entries.map Prod.fst)
  | _ => none

def entryOf (index : Nat) (v : Value) : Except LoadError (Value × Value) :=
  match partsOf? v with
  | some [k, v] => if k.isHashable then .ok (k, v) else .error .notEntries
  | some parts => .error (.badEntry index parts.length)
  | none => .error .notEntries

def entriesOf (v : Value) : Except LoadError (List (Value × Value)) :=
  match v, partsOf? v with
  | .mapping entries, _ => .ok entries
  | _, some parts => parts.zipIdx.mapM fun (v, i) => entryOf i v
  | _, none => .error .notEntries

/-- The entries under texts; no file has an extension that is no text. -/
def namedEntries {α : Type} (entries : List (Value × α)) : List (String × α) :=
  entries.filterMap fun (k, v) => k.text?.map fun name => (name, v)

def oddEntries {α : Type} (entries : List (Value × α)) : List (Value × α) :=
  entries.filter fun (k, _) => k.text?.isNone

def setEntries {α : Type} (entries additions : List (Value × α)) : List (Value × α) :=
  additions.foldl (fun entries (k, v) => Value.setEntry entries k v) entries

def candidatesOf (v : Value) : Except LoadError (List Value) :=
  match partsOf? v with
  | some parts => .ok parts
  | none => .error .notEntries

def extend (r : Registry) (document : List (Value × Value)) : Except LoadError Registry := do
  let grammars ← grammarsOf (part document "languages")
  let extensions ← entriesOf (part document "extensions")
  let shared ← entriesOf (part document "ambiguous_extensions")
  let candidates ← (setEntries [] shared).mapM fun (k, v) =>
    (candidatesOf v).map fun names => (k, names)
  .ok {
    grammars := grammars.foldl addGrammar r.grammars
    extensions := r.extensions.update (namedEntries extensions)
    shared := r.shared.update (namedEntries candidates)
    oddExtensions := setEntries r.oddExtensions (oddEntries extensions)
    oddShared := setEntries r.oddShared (oddEntries candidates) }

/-- The sections of a table of languages, whose text is read as a document by `parse`; a text that
holds nothing has none.  The name of the file is for messages. -/
def document (parse : Yaml.Reader) (file : String) (content : List UInt8) :
    Except LoadError (List (Value × Value)) := do
  let text ← (fileText content).mapError .notText
  let document ← (parse text).mapError .notRead
  if document.isNothing then .ok []
  else
    match document with
    | .mapping entries => .ok entries
    | _ => .error (.notMapping file)

def load (parse : Yaml.Reader) (file : String) (content : List UInt8) : Except LoadError Registry := do
  bundled.extend (← document parse file content)

end LineCensus.Registry
