import LineCensus.Text.Base64
import LineCensus.Value
import LineCensus.Yaml.Number
import LineCensus.Yaml.Stamp

/-!
# The values of scalars

A tag of the standard says what a scalar is; a plain one without a tag is a truth value, a number,
null, a day, a moment, or a text, by what it looks like.
-/

namespace LineCensus.Yaml

def standardTag (name : String) : String :=
  "tag:yaml.org,2002:" ++ name

namespace Scalar

def truthWords : List (String × Bool) :=
  [("yes", true), ("no", false), ("true", true), ("false", false), ("on", true), ("off", false)]

def nullWords : List String := ["", "~", "null", "Null", "NULL"]

/-- Whether a plain scalar is a truth value: a word in lower, title or upper case. -/
def isTruth (s : List Char) : Bool :=
  truthWords.any fun (word, _) =>
    s == word.toList || s == word.toList.map Char.toUpper ||
      s == (word.toList.take 1).map Char.toUpper ++ word.toList.drop 1

def ofTag (name text : String) : Except Error Value :=
  match name with
  | "str" => .ok (.text text)
  | "null" => .ok .null
  | "bool" =>
    match truthWords.lookup (Text.lower text) with
    | some b => .ok (.bool b)
    | none => .error (.broken .missingWord)
  | "int" => (integerOf text.toList).map .int
  | "float" => (floatOf text.toList).map .float
  | "binary" =>
    match if text.toList.all (·.toNat < 0x80) then Text.ofBase64? text.toList else none with
    | some bytes => .ok (.bytes bytes)
    | none => .error (.malformed .badContent)
  | "timestamp" =>
    match Stamp.ofText? text.toList with
    | some stamp => stamp.value.mapError .badValue
    | none => .error (.broken .missingForm)
  | _ => .error (.malformed .badContent)

/-- The name of the tag of a plain scalar.  A line end after it does not count. -/
def plainTag (text : String) : String :=
  let s := text.toList
  let s := if s.getLast? = some '\n' && 1 < s.length then s.dropLast else s
  if isTruth s then "bool"
  else if isFloat s then "float"
  else if isInteger s then "int"
  else if s = ['<', '<'] then "merge"
  else if nullWords.contains (String.ofList s) then "null"
  else if Stamp.isPlain s then "timestamp"
  else if s = ['='] then "value"
  else "str"

end Scalar

end LineCensus.Yaml
