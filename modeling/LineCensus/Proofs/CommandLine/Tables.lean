import LineCensus.Proofs.CommandLine.Refusals
import LineCensus.Proofs.Registry.Faults
import LineCensus.Proofs.Survey.Faults

/-!
# Tables of languages on the command line

A count and the list of languages load a table in the same way.  The main statement is that they
go by it, or tell the user why they cannot, with exit code 1; but a table for whose refusal there
is no wording ends both by accident.  One that names a language under an extension that is no text
cannot be listed, and one with a value that is no language may end a count.
-/

namespace LineCensus.CommandLine

variable {u : Services} {t : FileTree} {r : CountRequest} {p : Path} {content : List UInt8}
  {f : Failure}

/-! ## The languages of a table -/

end LineCensus.CommandLine
