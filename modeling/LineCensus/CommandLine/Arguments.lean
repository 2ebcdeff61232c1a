/-!
# Command-line arguments

Options stand for themselves or take a value.  A word after two dashes may be followed by an equals
sign and the value; letters after one dash may be written together, and the last one may be
followed by its value.  After two bare dashes there are no more options.
-/

namespace LineCensus.CommandLine

inductive UsageError where
  | noSuchOption (name : String)
  | missingValue (name : String)
  | unwantedValue (name : String)
  | noCommand
  | noSuchCommand (name : String)
  | noPaths
  | noSuchPath (spelled : String)
  | isDirectory (spelled : String)
  | tooManyArguments
  | badNumber (text : String)
  deriving DecidableEq, Repr

def UsageError.message : UsageError → String
  | .noSuchOption name => "no such option: " ++ name
  | .missingValue name => "a value is missing after " ++ name
  | .unwantedValue name => "no value can follow " ++ name
  | .noCommand => "a command is missing"
  | .noSuchCommand name => "no such command: " ++ name
  | .noPaths => "paths are missing"
  | .noSuchPath spelled => "there is nothing at " ++ spelled
  | .isDirectory spelled => "a directory, not a file: " ++ spelled
  | .tooManyArguments => "too many arguments"
  | .badNumber text => "not a number above zero: " ++ text

structure OptionForm (κ : Type) where
  key : κ
  word : String
  letters : List Char := []
  takesValue : Bool := false

/-- The options that are given, each with its value, and the other arguments.  The value of an
option that takes none is empty. -/
structure Arguments (κ : Type) where
  options : List (κ × String) := []
  others : List String := []

namespace Arguments

variable {κ : Type}

structure Reading (κ : Type) where
  found : List (κ × String) := []
  waiting : Option (OptionForm κ) := none

def readLetters (forms : List (OptionForm κ)) : List Char → Except UsageError (Reading κ)
  | [] => .ok {}
  | c :: rest =>
    match forms.find? (·.letters.contains c) with
    | none => .error (.noSuchOption (String.ofList ['-', c]))
    | some form =>
      if !form.takesValue then
        (readLetters forms rest).map fun r => { r with found := (form.key, "") :: r.found }
      else if rest.isEmpty then .ok { waiting := some form }
      else .ok { found := [(form.key, String.ofList rest)] }

def readWord (forms : List (OptionForm κ)) (s : List Char) : Except UsageError (Reading κ) :=
  let word := String.ofList (s.takeWhile (· != '='))
  let value := (s.dropWhile (· != '=')).tail
  let hasValue := s.contains '='
  match forms.find? (·.word == word) with
  | none => .error (.noSuchOption ("--" ++ word))
  | some form =>
    if form.takesValue then
      if hasValue then .ok { found := [(form.key, String.ofList value)] }
      else .ok { waiting := some form }
    else if hasValue then .error (.unwantedValue ("--" ++ word))
    else .ok { found := [(form.key, "")] }

/-- Reads arguments, the first of which may be the value that an option is waiting for.  Options
may come after other arguments only if they are `mixed`. -/
def readFrom (forms : List (OptionForm κ)) (mixed : Bool) (waiting : Option (OptionForm κ)) :
    List String → Except UsageError (Arguments κ)
  | [] =>
    match waiting with
    | some form => .error (.missingValue ("--" ++ form.word))
    | none => .ok {}
  | arg :: rest =>
    let go (r : Reading κ) : Except UsageError (Arguments κ) :=
      (readFrom forms mixed r.waiting rest).map fun a => { a with options := r.found ++ a.options }
    match waiting, arg.toList with
    | some form, _ => go { found := [(form.key, arg)] }
    | none, ['-', '-'] => .ok { others := rest }
    | none, '-' :: '-' :: word => do go (← readWord forms word)
    | none, '-' :: c :: letters => do go (← readLetters forms (c :: letters))
    | none, _ =>
      if mixed then (readFrom forms mixed none rest).map fun a => { a with others := arg :: a.others }
      else .ok { others := arg :: rest }

def read (forms : List (OptionForm κ)) (mixed : Bool) (args : List String) :
    Except UsageError (Arguments κ) :=
  readFrom forms mixed none args

variable [BEq κ]

def has (a : Arguments κ) (key : κ) : Bool :=
  a.options.any (·.1 == key)

/-- The value of an option, the last one if there are several. -/
def value? (a : Arguments κ) (key : κ) : Option String :=
  (a.options.reverse.find? (·.1 == key)).map Prod.snd

end Arguments

end LineCensus.CommandLine
