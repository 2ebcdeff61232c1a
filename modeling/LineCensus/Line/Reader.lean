import LineCensus.Line.Kind
import LineCensus.Text.Utf8

/-!
# The lines of a file

A line ends at a line feed and nowhere else; a carriage return before it is dropped.  What follows
the last line feed is a line if it is not empty.  Reading stops at the first line that is longer
than the limit.  One byte more than the limit is asked for at a time, so there are limits with which
nothing can be read.
-/

namespace LineCensus.Line

/-- A line longer than `limit` bytes. -/
structure TooLong where
  number : Nat
  limit : Nat
  deriving DecidableEq

def TooLong.message (e : TooLong) : String :=
  s!"line {e.number} exceeds the maximum length of {e.limit} bytes"

/-- The lines of a file up to the first one that is too long. -/
structure Reading where
  lines : List (List UInt8)
  error : Option TooLong
  deriving DecidableEq

def lineFeed : UInt8 := 0x0a

def dropReturn (line : List UInt8) : List UInt8 :=
  if line.getLast? = some 0x0d then line.dropLast else line

/-- Goes on reading: `found` holds the lines so far and `line` the bytes of the current one, both
last first; `room` is the number of bytes that still fit into the current line. -/
def readFrom (limit : Nat) (found : List (List UInt8)) (line : List UInt8) (room : Nat) :
    List UInt8 → Reading
  | [] => ⟨(if line.isEmpty then found else line.reverse :: found).reverse, none⟩
  | b :: rest =>
    if b = lineFeed then readFrom limit (line.reverse :: found) [] limit rest
    else
      match room with
      | 0 => ⟨found.reverse, some ⟨found.length + 1, limit⟩⟩
      | room + 1 => readFrom limit found (b :: line) room rest

/-- The most bytes that can be asked for at a time. -/
def largestRequest : Nat := 0x7fffffffffffffff

/-- More bytes were asked for than can be. -/
structure Oversized where
  size : Nat
  deriving DecidableEq, Repr

def read (limit : Nat) (content : List UInt8) : Except Oversized Reading :=
  if limit + 1 ≤ largestRequest then .ok (readFrom limit [] [] limit content)
  else .error ⟨limit + 1⟩

def ofBytes (line : List UInt8) : List Char :=
  Text.Utf8.decodeReplacing (dropReturn line)

def Reading.texts (r : Reading) : List (List Char) :=
  r.lines.map ofBytes

end LineCensus.Line
