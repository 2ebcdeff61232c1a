import LineCensus.Text.Ranges

/-!
# White space

The characters that separate words without being seen.  A line that holds nothing else is blank.
-/

namespace LineCensus.Text

/-- Code points of white space: the ASCII controls from tab to carriage return and from file
separator to unit separator, the space, and Unicode's further spaces and line ends. -/
def blankRanges : Ranges :=
  [(0x9, 0xd), (0x1c, 0x20), (0x85, 0x85), (0xa0, 0xa0), (0x1680, 0x1680), (0x2000, 0x200a),
   (0x2028, 0x2029), (0x202f, 0x202f), (0x205f, 0x205f), (0x3000, 0x3000)]

def isBlank (c : Char) : Bool :=
  blankRanges.contains c.toNat

def trimStart (s : List Char) : List Char :=
  s.dropWhile isBlank

def trimEnd (s : List Char) : List Char :=
  (s.reverse.dropWhile isBlank).reverse

def trim (s : List Char) : List Char :=
  trimEnd (trimStart s)

/-- Whether the character may stand around a number: white space other than the separators of
files, groups, records and units. -/
def isPadding (c : Char) : Bool :=
  isBlank c && !(0x1c ≤ c.toNat && c.toNat ≤ 0x1f)

def dropPadding (s : List Char) : List Char :=
  ((s.dropWhile isPadding).reverse.dropWhile isPadding).reverse

def trimmed (s : String) : String :=
  String.ofList (trim s.toList)

theorem isBlank_space : isBlank ' ' = true := by decide

end LineCensus.Text
