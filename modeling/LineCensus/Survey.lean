import LineCensus.Collect
import LineCensus.FileCounter
import LineCensus.PathPatterns
import LineCensus.Totals

/-!
# Surveys

Collects the files that paths stand for, counts each of them, and sums up.  Files with the same
content may be counted once, under the first of their paths.
-/

namespace LineCensus

inductive SurveyError where
  | collecting (error : CollectError)
  | choosing (fault : LanguageFault)
  /-- There are many files, and nobody to share the work. -/
  | noWorkers
  | counting (error : CountError)
  deriving Repr

/-- What is counted, and how.  The files of a survey that is watched are never shared out. -/
structure Survey where
  options : Options := {}
  detector : Detector := {}
  pathPatterns : PathPatterns := {}
  encoder : List Char → Nat
  watched : Bool := false

namespace Survey

/-- The number of files from which on they are shared out between workers. -/
def sharedFrom : Nat := 50

def make (options : Options) (detector : Detector) (encoder : List Char → Nat) :
    Except Pattern.Fault Survey := do
  let pathPatterns ← PathPatterns.make options.nameMatch options.nameNotMatch options.dirMatch
    options.dirNotMatch
  .ok { options, detector, pathPatterns, encoder }

def files (s : Survey) (t : FileTree) (paths : List Path) : Except CollectError (List Path) :=
  t.collect ⟨s.options.includeHidden, s.options.respectGitignore⟩ s.pathPatterns.admits paths

def choice (s : Survey) : Except LanguageFault LanguageChoice :=
  LanguageChoice.make s.detector.registry s.options.excludeExt s.options.includeLang

def counterFor (s : Survey) (choice : LanguageChoice) : FileCounter where
  detector := s.detector
  filter := some choice
  countUnknown := s.options.countUnknown
  countTokens := s.options.countTokens
  encoder := s.encoder
  lineLimit := s.options.lineLimit

def counter (s : Survey) : Except LanguageFault FileCounter :=
  s.choice.map s.counterFor

/-- Whether there is somebody to do the work on so many files. -/
def hasWorkers (s : Survey) (files : Nat) : Bool :=
  files < sharedFrom || s.watched || s.options.jobs.all (0 < ·)

/-- The entries without those whose content is that of an earlier one; `seen` holds the digests
met before. -/
def dropRepeated (seen : List String) : List FileEntry → List FileEntry
  | [] => []
  | r :: rest =>
    match r.contentHash with
    | some digest =>
      if seen.contains digest then dropRepeated seen rest
      else r :: dropRepeated (digest :: seen) rest
    | none => r :: dropRepeated seen rest

/-- Nothing is put out of order, and nothing is added. -/
theorem dropRepeated_sublist (seen : List String) (entries : List FileEntry) :
    (dropRepeated seen entries).Sublist entries := by
  induction entries generalizing seen with
  | nil => simp [dropRepeated]
  | cons r rest ih =>
    simp only [dropRepeated]
    split
    · split
      · exact (ih _).cons r
      · exact (ih _).cons_cons r
    · exact (ih _).cons_cons r

def kept (s : Survey) (counted : List FileEntry) : List FileEntry :=
  let counted := counted.mergeSort fun a b => a.path ≤ b.path
  if s.options.skipDuplicates then dropRepeated [] counted else counted

/-- The entries of the files that are counted, up to the first file that cannot be. -/
def entriesOf (counter : FileCounter) (t : FileTree) (files : List Path) :
    Except CountError (List FileEntry) :=
  (files.mapM (counter.count t)).map List.reduceOption

def take (s : Survey) (t : FileTree) (paths : List Path) : Except SurveyError Census := do
  let files ← (s.files t paths).mapError .collecting
  let counter ← s.counter.mapError .choosing
  if s.hasWorkers files.length then
    let counted ← (entriesOf counter t files).mapError .counting
    .ok (Census.ofEntries (s.kept counted))
  else .error .noWorkers

end Survey

end LineCensus
