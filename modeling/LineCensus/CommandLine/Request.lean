import LineCensus.CommandLine.Arguments
import LineCensus.FileTree
import LineCensus.Text.Numeral
import LineCensus.Value

/-!
# Requests

What a command line asks for: the version, help, the languages, or a count.
-/

namespace LineCensus.CommandLine

inductive GeneralOption where
  | version
  | help
  deriving DecidableEq, Repr

inductive CountOption where
  | byFile
  | sort
  | outputType
  | excludeExt
  | includeLang
  | nameMatch
  | nameNotMatch
  | dirMatch
  | dirNotMatch
  | skipDuplicates
  | includeHidden
  | noGitignore
  | unknown
  | tokens
  | jobs
  | debug
  | languagesFile
  | outputFile
  | help
  deriving DecidableEq, Repr

def generalForms : List (OptionForm GeneralOption) :=
  [⟨.version, "version", ['v'], false⟩, ⟨.help, "help", ['h'], false⟩]

def countForms : List (OptionForm CountOption) :=
  [⟨.byFile, "by-file", [], false⟩, ⟨.sort, "sort", [], true⟩,
   ⟨.outputType, "output-type", [], true⟩, ⟨.excludeExt, "exclude-ext", [], true⟩,
   ⟨.includeLang, "include-lang", [], true⟩, ⟨.nameMatch, "match", [], true⟩,
   ⟨.nameNotMatch, "not-match", [], true⟩, ⟨.dirMatch, "match-d", [], true⟩,
   ⟨.dirNotMatch, "not-match-d", [], true⟩, ⟨.skipDuplicates, "skip-duplicated", [], false⟩,
   ⟨.includeHidden, "include-hidden", ['i'], false⟩, ⟨.noGitignore, "no-gitignore", [], false⟩,
   ⟨.unknown, "unknown", [], false⟩, ⟨.tokens, "tokens", [], false⟩, ⟨.jobs, "jobs", ['j'], true⟩,
   ⟨.debug, "debug", [], false⟩, ⟨.languagesFile, "languages-file", [], true⟩,
   ⟨.outputFile, "output", ['o'], true⟩, ⟨.help, "help", ['h'], false⟩]

def languagesForms : List (OptionForm CountOption) :=
  countForms.filter fun form => form.key == .languagesFile || form.key == .help

structure CountRequest where
  paths : List Path
  byFile : Bool := false
  sort : Option String := none
  outputType : Option String := none
  excludeExt : Option String := none
  includeLang : Option String := none
  nameMatch : Option String := none
  nameNotMatch : Option String := none
  dirMatch : Option String := none
  dirNotMatch : Option String := none
  skipDuplicates : Bool := false
  includeHidden : Bool := false
  noGitignore : Bool := false
  countUnknown : Bool := false
  countTokens : Bool := false
  jobs : Option Int := none
  debug : Bool := false
  languagesFile : Option Path := none
  outputFile : Option Path := none
  deriving DecidableEq, Repr

inductive Request where
  | version
  | help
  | languages (file : Option Path)
  | count (request : CountRequest)
  deriving DecidableEq, Repr

def textOrNull : Option String → Value
  | some s => .text s
  | none => .null

/-- The settings of the command line, under the names that a configuration file has for them. -/
def CountRequest.settings (r : CountRequest) : List (String × Value) :=
  [("by_file", .bool r.byFile), ("sort", textOrNull r.sort),
   ("output_type", textOrNull r.outputType), ("exclude_ext", textOrNull r.excludeExt),
   ("include_lang", textOrNull r.includeLang), ("match", textOrNull r.nameMatch),
   ("not_match", textOrNull r.nameNotMatch), ("match_dir", textOrNull r.dirMatch),
   ("not_match_dir", textOrNull r.dirNotMatch), ("skip_duplicated", .bool r.skipDuplicates),
   ("include_hidden", .bool r.includeHidden), ("unknown_language", .bool r.countUnknown),
   ("count_tokens", .bool r.countTokens),
   ("jobs", match r.jobs with | some n => .int n | none => .null)]

def existingPath (t : FileTree) (spelled : String) : Except UsageError Path :=
  match t.getSpelled spelled with
  | .ok _ => .ok (.ofString spelled)
  | .error _ => .error (.noSuchPath spelled)

def existingFile (t : FileTree) (spelled : Option String) : Except UsageError (Option Path) :=
  match spelled with
  | none => .ok none
  | some spelled =>
    match t.getSpelled spelled with
    | .ok (.directory _) => .error (.isDirectory spelled)
    | .ok _ => .ok (some (.ofString spelled))
    | .error _ => .error (.noSuchPath spelled)

def workers (text : Option String) : Except UsageError (Option Int) :=
  match text with
  | none => .ok none
  | some text =>
    match Text.integer? text with
    | some n => if 0 < n then .ok (some n) else .error (.badNumber text)
    | none => .error (.badNumber text)

def countRequest (t : FileTree) (a : Arguments CountOption) : Except UsageError CountRequest := do
  let paths ← a.others.mapM (existingPath t)
  let jobs ← workers (a.value? .jobs)
  let languagesFile ← existingFile t (a.value? .languagesFile)
  if paths.isEmpty then .error .noPaths
  else
    .ok {
      paths, jobs, languagesFile
      byFile := a.has .byFile
      sort := a.value? .sort
      outputType := a.value? .outputType
      excludeExt := a.value? .excludeExt
      includeLang := a.value? .includeLang
      nameMatch := a.value? .nameMatch
      nameNotMatch := a.value? .nameNotMatch
      dirMatch := a.value? .dirMatch
      dirNotMatch := a.value? .dirNotMatch
      skipDuplicates := a.has .skipDuplicates
      includeHidden := a.has .includeHidden
      noGitignore := a.has .noGitignore
      countUnknown := a.has .unknown
      countTokens := a.has .tokens
      debug := a.has .debug
      outputFile := (a.value? .outputFile).map Path.ofString }

def commandRequest (t : FileTree) (command : String) (args : List String) :
    Except UsageError Request :=
  match command with
  | "count" => do
    let a ← Arguments.read countForms true args
    if a.has .help then .ok .help else (countRequest t a).map .count
  | "languages" => do
    let a ← Arguments.read languagesForms true args
    if a.has .help then .ok .help
    else
      let file ← existingFile t (a.value? .languagesFile)
      if a.others.isEmpty then .ok (.languages file) else .error .tooManyArguments
  | command => .error (.noSuchCommand command)

/-- What a command line asks for.  An option before the command is answered on its own. -/
def Request.ofArgs (t : FileTree) (args : List String) : Except UsageError Request := do
  let a ← Arguments.read generalForms false args
  match a.options, a.others with
  | (.version, _) :: _, _ => .ok .version
  | (.help, _) :: _, _ => .ok .help
  | [], [] => .error .noCommand
  | [], command :: args => commandRequest t command args

end LineCensus.CommandLine
