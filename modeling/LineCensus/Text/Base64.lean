/-!
# Bytes in sixty-four letters

Three bytes are written as four letters of six bits each, and equals signs fill up the last four.
Other characters between them do not count.
-/

namespace LineCensus.Text

def sextet? (c : Char) : Option Nat :=
  if 'A' ≤ c && c ≤ 'Z' then some (c.toNat - 65)
  else if 'a' ≤ c && c ≤ 'z' then some (c.toNat - 71)
  else if c.isDigit then some (c.toNat + 4)
  else if c = '+' then some 62
  else if c = '/' then some 63
  else none

/-- Goes on reading: `place` is the place of the next letter among its four, `left` holds the bits
of the letters before it that are not used up, and `pads` counts the signs in front of it. -/
def readBase64 (found : List UInt8) (place left pads : Nat) : List Char → Option (List UInt8)
  | [] => if place = 0 then some found.reverse else none
  | c :: rest =>
    if c = '=' then
      if 2 ≤ place then
        if 4 ≤ place + (pads + 1) then some found.reverse
        else readBase64 found place left (pads + 1) rest
      else readBase64 found place left pads rest
    else
      match sextet? c with
      | none => readBase64 found place left pads rest
      | some bits =>
        match place with
        | 0 => readBase64 found 1 bits 0 rest
        | 1 => readBase64 (UInt8.ofNat (left * 4 + bits / 16) :: found) 2 (bits % 16) 0 rest
        | 2 => readBase64 (UInt8.ofNat (left * 16 + bits / 4) :: found) 3 (bits % 4) 0 rest
        | _ => readBase64 (UInt8.ofNat (left * 64 + bits) :: found) 0 0 0 rest

def ofBase64? (s : List Char) : Option (List UInt8) :=
  readBase64 [] 0 0 0 s

end LineCensus.Text
