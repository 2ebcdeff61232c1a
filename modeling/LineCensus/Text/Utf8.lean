/-!
# UTF-8

Bytes are cut into pieces: whole characters, and the longest ill-formed beginnings of characters.
Reading a text then only has to say what becomes of an ill-formed piece: it is replaced by the
replacement character, it is dropped, or it is an error.
-/

namespace LineCensus.Text.Utf8

inductive Fault where
  | invalidStart
  /-- A character was begun, and the byte that follows cannot continue it. -/
  | invalidContinuation
  /-- The bytes end within a character. -/
  | truncated
  deriving DecidableEq, Repr

inductive Piece where
  | char (c : Char)
  | illFormed (bytes : List UInt8) (fault : Fault)
  deriving DecidableEq

/-- A character of which some bytes are still to come: the bytes read, last first, the bits that
they carry, the number of bytes `missing` after the next one, and the bounds of the next one. -/
structure Pending where
  read : List UInt8
  value : Nat
  missing : Nat
  low : UInt8
  high : UInt8
  deriving DecidableEq

inductive Start where
  | whole (piece : Piece)
  | pending (p : Pending)

/-- The bounds of the second byte keep out overlong forms, surrogates, and numbers above the
last character. -/
def start (b : UInt8) : Start :=
  if b < 0x80 then .whole (.char (Char.ofNat b.toNat))
  else if b < 0xc2 then .whole (.illFormed [b] .invalidStart)
  else if b < 0xe0 then .pending ⟨[b], b.toNat % 32, 0, 0x80, 0xbf⟩
  else if b < 0xf0 then
    .pending ⟨[b], b.toNat % 16, 1, if b = 0xe0 then 0xa0 else 0x80, if b = 0xed then 0x9f else 0xbf⟩
  else if b < 0xf5 then
    .pending ⟨[b], b.toNat % 8, 2, if b = 0xf0 then 0x90 else 0x80, if b = 0xf4 then 0x8f else 0xbf⟩
  else .whole (.illFormed [b] .invalidStart)

/-- The pieces found so far, last first, and the character that is being read. -/
structure State where
  found : List Piece := []
  pending : Option Pending := none

def State.begin (found : List Piece) (b : UInt8) : State :=
  match start b with
  | .whole piece => ⟨piece :: found, none⟩
  | .pending p => ⟨found, some p⟩

def State.push (s : State) (b : UInt8) : State :=
  match s.pending with
  | none => State.begin s.found b
  | some p =>
    if p.low ≤ b && b ≤ p.high then
      let value := p.value * 64 + b.toNat % 64
      if p.missing = 0 then ⟨.char (Char.ofNat value) :: s.found, none⟩
      else ⟨s.found, some ⟨b :: p.read, value, p.missing - 1, 0x80, 0xbf⟩⟩
    else State.begin (.illFormed p.read.reverse .invalidContinuation :: s.found) b

def State.finish (s : State) : List Piece :=
  match s.pending with
  | none => s.found.reverse
  | some p => (.illFormed p.read.reverse .truncated :: s.found).reverse

def pieces (bytes : List UInt8) : List Piece :=
  (bytes.foldl State.push {}).finish

def Piece.orReplacement : Piece → Char
  | .char c => c
  | .illFormed _ _ => '\ufffd'

def Piece.char? : Piece → Option Char
  | .char c => some c
  | .illFormed _ _ => none

def decodeReplacing (bytes : List UInt8) : List Char :=
  (pieces bytes).map Piece.orReplacement

def decodeDropping (bytes : List UInt8) : List Char :=
  (pieces bytes).filterMap Piece.char?

structure DecodeError where
  position : Nat
  bytes : List UInt8
  fault : Fault
  deriving DecidableEq, Repr

/-- Reads a text that has to be well-formed: goes through the pieces from the byte at `position`,
with the characters read so far, last first. -/
def decodePieces (position : Nat) (read : List Char) : List Piece → Except DecodeError (List Char)
  | [] => .ok read.reverse
  | .char c :: rest => decodePieces (position + c.utf8Size) (c :: read) rest
  | .illFormed bytes fault :: _ => .error ⟨position, bytes, fault⟩

def decode (bytes : List UInt8) : Except DecodeError (List Char) :=
  decodePieces 0 [] (pieces bytes)

def encode (s : List Char) : List UInt8 :=
  s.flatMap String.utf8EncodeChar

def size (s : List Char) : Nat :=
  s.foldl (fun n c => n + c.utf8Size) 0

end LineCensus.Text.Utf8
