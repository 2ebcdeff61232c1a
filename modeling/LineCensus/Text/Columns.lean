/-!
# Columns

Text padded to a width, counted in characters.  Longer text is left as it is.
-/

namespace LineCensus.Text

def line (n : Nat) (c : Char) : String :=
  String.ofList (List.replicate n c)

def padRight (width : Nat) (s : String) : String :=
  s ++ line (width - s.length) ' '

def padLeft (width : Nat) (s : String) : String :=
  line (width - s.length) ' ' ++ s

def padZeros (width n : Nat) : String :=
  let digits := toString n
  line (width - digits.length) '0' ++ digits

theorem length_line (n : Nat) (c : Char) : (line n c).length = n := by
  simp [line]

theorem length_padRight (width : Nat) (s : String) :
    (padRight width s).length = max width s.length := by
  simp [padRight, length_line]
  omega

theorem length_padLeft (width : Nat) (s : String) :
    (padLeft width s).length = max width s.length := by
  simp [padLeft, length_line]
  omega

end LineCensus.Text
