import LineCensus.Registry.Bundled.Extensions
import LineCensus.Registry.Bundled.Grammars
import LineCensus.Table
import LineCensus.Text.Case
import LineCensus.Text.Columns
import LineCensus.Value

/-!
# The registry of languages

The known grammars, the language of each file extension, and the extensions that several languages
share.  An extension may be listed without a language: its files are then of no language at all.
-/

namespace LineCensus

inductive LanguageFault where
  /-- What can be changed cannot be looked up. -/
  | unhashable
  /-- What is no text has no letters of either case. -/
  | notText
  /-- It is to be shown, and cannot be written. -/
  | unwritable
  deriving DecidableEq, Repr

/-- The known languages and their extensions.  Grammars have distinct names.  Any value may stand for
the language of an extension, or among the candidates of a shared one.  A key that is no text is the
extension of no file, but it is among the extensions of its languages. -/
structure Registry where
  grammars : List Grammar
  extensions : Table Value
  shared : Table (List Value)
  oddExtensions : List (Value × Value) := []
  oddShared : List (Value × List Value) := []

namespace Registry

def bundled : Registry where
  grammars := Bundled.grammars
  extensions := Bundled.extensions.map fun (ext, language) => (ext, .text language)
  shared := Bundled.sharedExtensions.map fun (ext, candidates) => (ext, candidates.map .text)

def lookup (r : Registry) (name : String) : Option Grammar :=
  r.grammars.find? (·.name == name)

def contains (r : Registry) (name : String) : Bool :=
  r.grammars.any (·.name == name)

def names (r : Registry) : List String :=
  r.grammars.map (·.name)

/-- Adds a grammar; a grammar of the same name gives up its place to it. -/
def addGrammar (grammars : List Grammar) (g : Grammar) : List Grammar :=
  match grammars with
  | [] => [g]
  | other :: rest => if other.name = g.name then g :: rest else other :: addGrammar rest g

def lookupValue (r : Registry) : Value → Except LanguageFault (Option Grammar)
  | .text name => .ok (r.lookup name)
  | v => if v.isHashable then .ok none else .error .unhashable

/-- The language of that name in any letter case, the last of several. -/
def nameInAnyCase (r : Registry) (word : String) : Option String :=
  let lowered := Text.lower word
  r.names.reverse.find? (Text.lower · == lowered)

/-- The answer to a word: a name stands for itself, a listed extension for its language, and any
other word for a name in other letter case; null if there is none. -/
def answerFor (r : Registry) (word : String) : Value :=
  if word.isEmpty then .null
  else if r.contains word then .text word
  else
    match r.extensions.find? word, r.nameInAnyCase word with
    | some language, _ => language
    | none, some name => .text name
    | none, none => .null

def answerTo (r : Registry) : Value → Except LanguageFault Value
  | .text word => .ok (r.answerFor word)
  | v =>
    if v.isNothing then .ok .null
    else if !v.isHashable then .error .unhashable
    else
      match r.oddExtensions.find? fun entry => Value.sameKey entry.1 v with
      | some entry => .ok entry.2
      | none =>
        match v with
        | .bytes _ => .ok .null
        | _ => .error .notText

def extensionsOf (r : Registry) (name : String) : List String :=
  let own := (r.extensions.filter (·.2 == .text name)).map (·.1)
  let shared := (r.shared.filter fun (ext, candidates) =>
    candidates.contains (.text name) && !own.contains ext).map (·.1)
  (own ++ shared).mergeSort (· ≤ ·)

def isListable (r : Registry) : Bool :=
  r.names.all fun name =>
    r.oddExtensions.all (·.2 != .text name) && r.oddShared.all (!·.2.contains (.text name))

def listing (r : Registry) : String :=
  let line (name : String) : String :=
    Text.padRight 30 name ++ " (" ++ ", ".intercalate (r.extensionsOf name) ++ ")"
  "\n".intercalate ((r.names.mergeSort (· ≤ ·)).map line) ++ "\n"

end Registry

end LineCensus
