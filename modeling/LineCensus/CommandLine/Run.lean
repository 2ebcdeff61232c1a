import LineCensus.CommandLine.Request
import LineCensus.Encoding
import LineCensus.Format
import LineCensus.Ranking
import LineCensus.Settings
import LineCensus.Survey
import LineCensus.Text.Styling
import LineCensus.Yaml.Load

/-!
# Running requests

A request is carried out on a tree of files.  What comes of it is text for the reader, messages, an
exit code, and the tree, in which a report may have been written.  Faults in what the user gave are
reported, and nothing is counted then.
-/

namespace LineCensus.CommandLine

def version : String := "1.0.0"

/-- What the program has from elsewhere: how a text is read as a document, and how many tokens a text
is cut into. -/
structure Services where
  parse : Yaml.Reader
  encoder : List Char → Nat

def Services.plain : Services :=
  ⟨Yaml.load, byteTokens⟩

/-- What no report is made of. -/
inductive Accident where
  | configuration (error : Settings.Unusable)
  /-- A word among the settings cannot be written. -/
  | unwritable
  | options (refusal : Options.Refusal)
  | languages (error : Registry.LoadError)
  /-- A language has an extension that is no text. -/
  | listing
  | survey (error : SurveyError)
  | output (error : FileError)

inductive Failure where
  | reported (text : String)
  | accident (cause : Accident)

structure Outcome where
  exitCode : Nat := 0
  output : String := ""
  messages : String := ""
  accident : Option Accident := none
  tree : FileTree

def Failure.outcome (f : Failure) (t : FileTree) (messages : String) : Outcome :=
  match f with
  | .reported text =>
    { exitCode := 1, messages := Text.unstyled (messages ++ s!"❌ ERROR: {text}\n"), tree := t }
  | .accident cause =>
    { exitCode := 1, messages := Text.unstyled messages, accident := some cause, tree := t }

def registryFor (u : Services) (t : FileTree) (file : Option Path) : Except Failure Registry :=
  match file with
  | none => .ok .bundled
  | some p =>
    match t.read p with
    | .error e => .error (.reported s!"cannot load {p.text}: {e.message}")
    | .ok content =>
      match Registry.load u.parse p.text content with
      | .ok r => .ok r
      | .error e =>
        match e.message with
        | some text => .error (.reported s!"cannot load {p.text}: {text}")
        | none => .error (.accident (.languages e))

def isOn (settings : List (Value × Value)) (name : String) : Bool :=
  (Value.entry? settings name).any (!·.isNothing)

/-- The word of a setting; one that counts as nothing is the default. -/
def word (settings : List (Value × Value)) (name default : String) : Except Failure String :=
  match Value.entry? settings name with
  | some v =>
    if v.isNothing then .ok default
    else if v.isWritable then .ok v.shown
    else .error (.accident .unwritable)
  | none => .ok default

/-- A count that can begin. -/
structure Plan where
  survey : Survey
  key : Ranking
  type : Format
  byFile : Bool

def keyFor (name : String) : Except Failure Ranking :=
  match Ranking.ofText? name with
  | some key => .ok key
  | none =>
    .error (.reported (s!"unknown sort key {Text.quoted name}; expected one of: " ++
      ", ".intercalate (Ranking.all.map (·.text))))

def typeFor (name : String) : Except Failure Format :=
  match Format.ofText? name with
  | some type => .ok type
  | none => .error (.reported (Format.unknownMessage name))

def optionsFor (settings : List (Value × Value)) : Except Failure Options :=
  (Options.ofSection settings).mapError fun e =>
    match e.message with
    | some text => .reported ("invalid configuration: " ++ text)
    | none => .accident (.options e)

def settingsFor (u : Services) (t : FileTree) (r : CountRequest) :
    Except Failure (List (Value × Value)) := do
  let config ← (Settings.load u.parse t (Settings.directoryFor t r.paths)).mapError
    fun e => .accident (.configuration e)
  let merged := Settings.overlay config "count" r.settings
  .ok (if r.noGitignore then
    Value.setEntry merged (.text "respect_gitignore") (.bool false) else merged)

/-- Settles everything that has to be known before files are looked at. -/
def plan (u : Services) (t : FileTree) (r : CountRequest) : Except Failure Plan := do
  let settings ← settingsFor u t r
  let byFile := isOn settings "by_file"
  let sort ← word settings "sort" Ranking.code.text
  let outputType ← word settings "output_type" Format.table.text
  let key ← keyFor sort
  if byFile && key == .files then
    .error (.reported "'--sort files' cannot be combined with '--by-file'.")
  else
    let type ← typeFor outputType
    let options ← optionsFor settings
    let registry ← registryFor u t r.languagesFile
    match Survey.make options { registry, watched := r.debug } u.encoder with
    | .ok survey => .ok { survey := { survey with watched := r.debug }, key, type, byFile }
    | .error e => .error (.reported ("invalid regular expression: " ++ e.message))

def mark : Line.Kind → String
  | .code => "[CODE] "
  | .comment => "[COMM] "
  | .blank => "[BLNK] "

def traceFile (c : FileCounter) (t : FileTree) (p : Path) : List String :=
  let content := (t.read p).toOption
  match c.detector.detect t p content with
  | .error _ => []
  | .ok language =>
    let headline := s!"[FILE] {p.text}: " ++
      if language.isNothing then "<unresolved>" else language.shown
    match c.grammarFor p language, content.map (Line.read c.lineLimit) with
    | .ok (some g), some (.ok reading) =>
      headline :: ((Line.kinds g reading.texts).zip reading.texts).map fun (kind, line) =>
        mark kind ++ String.ofList line
    | _, _ => [headline]

def traceFiles (c : FileCounter) (t : FileTree) : List Path → List String
  | [] => []
  | p :: rest =>
    traceFile c t p ++
      match c.count t p with
      | .ok _ => traceFiles c t rest
      | .error _ => []

def trace (s : Survey) (t : FileTree) (paths : List Path) : List String :=
  match s.files t paths, s.counter with
  | .ok files, .ok counter => traceFiles counter t files
  | _, _ => []

def unlines (messages : List String) : String :=
  String.join (messages.map (· ++ "\n"))

def warnings (c : Census) : List String :=
  c.failures.map fun r => "⚠️  " ++ r.path ++ ": " ++ r.error.getD ""

/-- Writes a report into a file, and makes the directories around it.  Directories that are made
stay if the rest fails. -/
def save (t : FileTree) (p : Path) (report : String) : FileTree × Option FileError :=
  match t.makeDirectories p.parent p.parts.length with
  | (t, none) =>
    match t.write p report.toUTF8.toList with
    | .ok saved => (saved, none)
    | .error e => (t, some e)
  | failed => failed

def carryOut (t : FileTree) (r : CountRequest) (plan : Plan) : Outcome :=
  let traced := if r.debug then unlines (trace plan.survey t r.paths) else ""
  match plan.survey.take t r.paths with
  | .error e => (Failure.accident (.survey e)).outcome t traced
  | .ok census =>
    let messages := traced ++ unlines (warnings census)
    let report := (census.ranked plan.key).render plan.type
      ⟨plan.byFile, plan.survey.options.countTokens⟩
    match r.outputFile with
    | none => { output := Text.unstyled report, messages := Text.unstyled messages, tree := t }
    | some p =>
      match save t p report with
      | (saved, some e) => (Failure.accident (.output e)).outcome saved messages
      | (saved, none) =>
        let done := s!"✅ Counted {census.total.tally.files} files; report saved to: {p.text}\n"
        { messages := Text.unstyled (messages ++ done), tree := saved }

def help : String :=
  unlines
    ["count PATHS [OPTIONS]", "  counts blank, comment and code lines",
     "languages [--languages-file FILE]", "  lists the languages and their extensions", "", "options:"]
    ++ unlines (countForms.map fun form =>
      "  " ++ ", ".intercalate (("--" ++ form.word) ::
        form.letters.map fun c => String.ofList ['-', c]))

def run (u : Services) (t : FileTree) (request : Request) : Outcome :=
  match request with
  | .version => { output := s!"codeloc Version: {version}\n", tree := t }
  | .help => { output := help, tree := t }
  | .languages file =>
    match registryFor u t file with
    | .ok registry =>
      if registry.isListable then { output := Text.unstyled registry.listing, tree := t }
      else (Failure.accident .listing).outcome t ""
    | .error e => e.outcome t ""
  | .count r =>
    match plan u t r with
    | .ok plan => carryOut t r plan
    | .error e => e.outcome t ""

def runArgs (u : Services) (t : FileTree) (args : List String) : Outcome :=
  match Request.ofArgs t args with
  | .ok request => run u t request
  | .error e => { exitCode := 2, messages := e.message ++ "\n", tree := t }

end LineCensus.CommandLine
