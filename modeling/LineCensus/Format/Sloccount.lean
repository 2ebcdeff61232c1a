import LineCensus.Census
import LineCensus.Text.Split

/-!
# The report for further processing

One line for each file: its lines of code, its language, the directory it belongs to, and its path,
with tabs between them.
-/

namespace LineCensus.Format.Sloccount

/-- The second component of a path that starts at the root or at the current directory, if another
one follows it; otherwise nothing. -/
def firstDirectory (path : String) : String :=
  match Text.split '/' path with
  | first :: second :: _ :: _ => if first = "" || first = "." then second else ""
  | _ => ""

def fileLine (r : FileEntry) : String :=
  "\t".intercalate [toString r.code, r.language, firstDirectory r.path, r.path]

def render (c : Census) : String :=
  String.join (c.files.map fun r => fileLine r ++ "\n")

end LineCensus.Format.Sloccount
