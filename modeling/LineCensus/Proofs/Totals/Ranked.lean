import LineCensus.Proofs.Totals.Sums
import LineCensus.Ranking

/-!
# Ranked outcomes

An outcome lists files by path and languages by name.  Ranking leaves this order to the entries
that it cannot tell apart, so that one order is left for each set of entries.
-/

namespace LineCensus

section Numbers

variable {key : Ranking} (hkey : key ≠ .name) {a b : String × Tally}

include hkey

end Numbers

namespace Census

end Census

end LineCensus
