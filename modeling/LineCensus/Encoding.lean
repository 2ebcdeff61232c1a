import LineCensus.Text.Utf8

/-!
# Encodings

An encoding cuts a text into tokens.  It is loaded when the first text that is not empty is counted.
-/

namespace LineCensus

def byteTokens (text : List Char) : Nat :=
  Text.Utf8.size text

structure Encoding where
  name : String := "cl100k_base"
  loaded : Bool := false
  deriving DecidableEq, Repr

/-- Counts the tokens of a text, which `encoder` cuts it into. -/
def Encoding.count (e : Encoding) (encoder : List Char → Nat) (text : List Char) : Encoding × Nat :=
  if text.isEmpty then (e, 0) else ({ e with loaded := true }, encoder text)

end LineCensus
