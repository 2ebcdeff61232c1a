import LineCensus.Pattern.Match
import LineCensus.Pattern.Parse
import LineCensus.Table

/-!
# Hints in the content of a file

Patterns that single out one of the languages that share an extension.
-/

namespace LineCensus.Content

def matchesIn (pattern : String) (text : List Char) : Bool :=
  match Pattern.parse pattern.toList with
  | .ok p => Pattern.found p.modes p.pattern text
  | .error _ => false

/-- The patterns that speak for each language. -/
def hints : Table (List String) :=
  [("Objective-C",
    ["(?m)^\\s*(@(interface|class|protocol|property|end|synchronized|selector|implementation)\\b"
      ++ "|#import\\s+.+\\.h[\">])"]),
   ("MATLAB", ["(?m)^\\s*%", "(?m)^\\s*function\\b.*="]),
   ("Mercury", ["(?m)^\\s*:-\\s*(module|interface|implementation|import_module)\\b"]),
   ("Coq", ["(?m)(?:^|\\s)(?:Proof|Qed)\\.(?:$|\\s)",
    "(?m)(?:^|\\s)Require\\s+(?:Import|Export)\\s"]),
   ("Verilog", ["(?m)^[ \\t]*module\\s+[^\\s()]+\\s*#?\\("]),
   ("F#", ["(?m)^\\s*(#light|import|let|module|namespace|open|type)\\b"]),
   ("GLSL", ["(?m)^\\s*(#version|precision|uniform|varying|in|out|vec[234])\\b"]),
   ("R", ["<-(?!-)", "\\blibrary\\s*\\("]),
   ("Rebol", ["(?i)\\bREBOL\\b"])]

def hintCount (language : String) (text : List Char) : Nat :=
  (((hints.find? language).getD []).filter fun pattern => matchesIn pattern text).length

end LineCensus.Content
