import LineCensus.Schema
import LineCensus.Table
import LineCensus.Text.Split

/-!
# Options

Everything that decides which files are counted, and how.  Options come from named values, which
may be given loosely: a list as text with commas, a number or a truth value as a word.
-/

namespace LineCensus

def defaultLineLimit : Nat := 1024 * 1024

/-- What is counted, and how.  The two lists are sets, without repetitions. -/
structure Options where
  excludeExt : List String := []
  includeLang : List String := []
  nameMatch : Option String := none
  nameNotMatch : Option String := none
  dirMatch : Option String := none
  dirNotMatch : Option String := none
  skipDuplicates : Bool := false
  includeHidden : Bool := false
  respectGitignore : Bool := true
  countUnknown : Bool := false
  countTokens : Bool := false
  jobs : Option Int := none
  lineLimit : Nat := defaultLineLimit
  deriving DecidableEq, Repr

namespace Options

open Schema

inductive ItemsFault where
  | notItems
  | unwritable
  deriving DecidableEq, Repr

inductive Refusal where
  | items (fault : ItemsFault)
  /-- Options that are not known, in order. -/
  | unknown (names : List String)
  /-- An option that is not known, under a key that is no text. -/
  | unknownKey
  | invalid (error : Invalid)
  deriving Repr

/-- The wording of the errors that a user of the options gets to see. -/
def Refusal.message : Refusal → Option String
  | .items .unwritable => some Value.unwritable
  | .unknown names => some ("unknown option(s): " ++ ", ".intercalate names)
  | .invalid e => some e.summary
  | _ => none

def inWords (items : List Value) : Except ItemsFault (List String) :=
  if items.all (·.isWritable) then .ok (items.map Value.shown) else .error .unwritable

/-- The items of a value, in words: the parts of a text between commas, the items of a list or a
set, the keys of a mapping, or the numbers of bytes; null has none. -/
def itemsOf : Value → Except ItemsFault (List String)
  | .null => .ok []
  | .text s => .ok (Text.split ',' s)
  | .list items | .tuple items | .set items => inWords items
  | .mapping entries => inWords (entries.map Prod.fst)
  | .bytes content => .ok (content.map fun b => toString b.toNat)
  | .bool _ | .int _ | .float _ | .day _ | .moment _ => .error .notItems

def trimmedItems (items : List String) : List String :=
  (items.map Text.trimmed).filter (!·.isEmpty)

def dropDots (ext : String) : String :=
  String.ofList (ext.toList.dropWhile (· == '.'))

def extensionsOf (v : Value) : Except ItemsFault (List String) :=
  (itemsOf v).map fun items => ((trimmedItems items).map dropDots).eraseDups

def languagesOf (v : Value) : Except ItemsFault (List String) :=
  (itemsOf v).map fun items => (trimmedItems items).eraseDups

def asLineLimit (v : Value) : Checked Nat :=
  match asInteger v with
  | .ok n => if 0 < n then .ok n.toNat else .fail .refused
  | .error e => .error e

/-- A field with items that may be left out.  That it holds none is found out before the others are
checked. -/
def itemsField (fields : Fields) (name : String)
    (items : Value → Except ItemsFault (List String)) : Except Refusal (Checked (List String)) :=
  match fields.find? (·.1 == name) with
  | none => .ok (.ok [])
  | some (_, v) =>
    match items v with
    | .ok found => .ok (.ok found)
    | .error .notItems => .error (.items .notItems)
    | .error .unwritable => .ok ((Checked.fail .refused).under (.field name))

def names : List String :=
  ["exclude_ext", "include_lang", "match", "not_match", "match_dir", "not_match_dir",
   "skip_duplicated", "include_hidden", "respect_gitignore", "unknown_language", "count_tokens",
   "jobs", "max_line_length"]

def ofFields (fields : Fields) : Except Refusal Options := do
  let excludeExt ← itemsField fields "exclude_ext" extensionsOf
  let includeLang ← itemsField fields "include_lang" languagesOf
  let pattern (name : String) := optional fields name none (orNull asText)
  let flag (name : String) (default : Bool) := optional fields name default asTruth
  let checked : Checked Options :=
    Checked.also (Except.map Options.mk excludeExt) includeLang
      |>.also (pattern "match") |>.also (pattern "not_match")
      |>.also (pattern "match_dir") |>.also (pattern "not_match_dir")
      |>.also (flag "skip_duplicated" false) |>.also (flag "include_hidden" false)
      |>.also (flag "respect_gitignore" true)
      |>.also (flag "unknown_language" false) |>.also (flag "count_tokens" false)
      |>.also (optional fields "jobs" none (orNull asInteger))
      |>.also (optional fields "max_line_length" defaultLineLimit asLineLimit)
  (named "AnalysisOptions" checked).mapError .invalid

/-- The names that a report is laid out by; they are no options of the count. -/
def presentationNames : List String :=
  ["by_file", "sort", "output_type", "output"]

def knownFields (entries : List (Value × Value)) : Except Refusal Fields :=
  let texts := entries.filterMap fun (k, v) =>
    match k with
    | .text name => if presentationNames.contains name then none else some (name, v)
    | _ => none
  let others := entries.filter fun (k, _) =>
    match k with
    | .text _ => false
    | _ => true
  match (texts.map Prod.fst).filter (!names.contains ·), others with
  | [], [] => .ok texts
  | unknown, [] => .error (.unknown (unknown.mergeSort (· ≤ ·)))
  | _, _ => .error .unknownKey

def splitField (name : String) (fields : Fields) : Except Refusal Fields :=
  match Table.find? fields name with
  | some v => ((itemsOf v).mapError .items).map fun items =>
    Table.set fields name (.list ((trimmedItems items).map .text))
  | none => .ok fields

def splitFields (fields : Fields) : Except Refusal Fields := do
  splitField "include_lang" (← splitField "exclude_ext" fields)

def ofSection (entries : List (Value × Value)) : Except Refusal Options := do
  let fields ← knownFields entries
  let fields ← splitFields fields
  ofFields fields

end Options

end LineCensus
