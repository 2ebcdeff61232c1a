import LineCensus.Text.Quoted
import LineCensus.Text.Utf8

/-!
# Messages on ill-formed UTF-8

The wording of a decoding error: which bytes, where, and why.
-/

namespace LineCensus.Text.Utf8

def Fault.text : Fault → String
  | .invalidStart => "invalid start byte"
  | .invalidContinuation => "invalid continuation byte"
  | .truncated => "unexpected end of data"

/-- One byte is shown by its value, several by their positions. -/
def DecodeError.message (e : DecodeError) : String :=
  let place :=
    match e.bytes with
    | [b] => s!"byte 0x{String.ofList (hexDigits 2 b.toNat)} in position {e.position}"
    | bytes => s!"bytes in position {e.position}-{e.position + bytes.length - 1}"
  s!"'utf-8' codec can't decode {place}: {e.fault.text}"

end LineCensus.Text.Utf8
