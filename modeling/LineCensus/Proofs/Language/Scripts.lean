import LineCensus.Proofs.Files.Counted
import LineCensus.Proofs.Language.Interpreter
import LineCensus.Proofs.Registry.Answers

/-!
# Scripts

A file without an extension is of the language of the program that its first line names.  Every
program that is listed under another word stands for a language that comes with the library, so
such a file is always counted.
-/

namespace LineCensus

namespace Shebang

/-- The line gives the argument to `env`, which a path leads to. -/
def GivesEnv (argument line : List Char) : Prop :=
  ∃ spaces path, line = '#' :: '!' :: (List.replicate spaces ' ' ++
      (path ++ ['/', 'e', 'n', 'v'] ++ ' ' :: argument)) ∧
    path ≠ [] ∧ ∀ c ∈ path, Text.isBlank c = false

theorem infix_of_givesEnv {argument line : List Char} (h : GivesEnv argument line) :
    ['/', 'e', 'n', 'v', ' '] <:+: line := by
  obtain ⟨spaces, path, rfl, -, -⟩ := h
  exact ⟨'#' :: '!' :: (List.replicate spaces ' ' ++ path), argument, by simp⟩

/-- The line names the program: it gives it to `env`, or names it by a path of letters, dots and
slashes.  The name goes no further than the program. -/
inductive Names (program line : List Char) : Prop where
  | env (rest : List Char) (hgives : GivesEnv (program ++ rest) line)
      (hrest : ∀ c ∈ rest.head?, isPathChar c = false)
  | path (spaces : Nat) (start rest : List Char)
      (hline : line = '#' :: '!' ::
        (List.replicate spaces ' ' ++ (start ++ '/' :: program ++ rest)))
      (hne : start ≠ []) (hpath : ∀ c ∈ start, isPathChar c = true)
      (hrest : ∀ c ∈ rest.head?, isPathChar c = false)

theorem isLetter_of_not_isPathChar {c : Char} (h : isPathChar c = false) : isLetter c = false := by
  rw [Bool.eq_false_iff] at h ⊢
  exact fun hletter => h (isPathChar_of_isLetter hletter)

/-- The program that is given to `env` is the one that the line is for, whatever else its path looks
like. -/
theorem interpreter?_of_givesEnv {argument line name : List Char} (h : GivesEnv argument line)
    (hname : programName? argument = some name) : interpreter? line = some (wordFor name) := by
  obtain ⟨spaces, path, rfl, hne, hvisible⟩ := h
  obtain ⟨first, more, rfl⟩ := List.exists_cons_of_ne_nil hne
  have hstart : first ≠ ' ' := by
    rintro rfl
    exact absurd (hvisible ' ' List.mem_cons_self) (by decide)
  rw [interpreter?_of_command spaces (by simpa using hstart), envArgument?_append hvisible hne,
    hname]
  rfl

section Program

variable {program : List Char} (hne : program ≠ []) (hletters : ∀ c ∈ program, isLetter c = true)

include hne hletters

theorem programName?_of_letters {rest : List Char}
    (hrest : ∀ c ∈ rest.head?, isPathChar c = false) :
    programName? (program ++ rest) = some program := by
  obtain ⟨first, more, rfl⟩ := List.exists_cons_of_ne_nil hne
  have hfirst : ∃ c ∈ (first :: more).head?, isLetter c = true :=
    ⟨first, rfl, hletters first List.mem_cons_self⟩
  rw [programName?_append hfirst fun c hc => isLetter_of_not_isPathChar (hrest c hc),
    List.takeWhile_eq_self_iff.mpr hletters]

/-- The word for a line is that of the program that it names, unless it gives another one to
`env`. -/
theorem interpreter?_of_names {line : List Char} (h : Names program line)
    (hother : ∀ argument other, GivesEnv argument line → programName? argument = some other →
      other = program) :
    interpreter? line = some (wordFor program) := by
  cases h with
  | env rest hgives hrest =>
    exact interpreter?_of_givesEnv hgives (programName?_of_letters hne hletters hrest)
  | path spaces start rest hline hstart hpath hrest =>
    have hspace : ∀ c ∈ (start ++ '/' :: (program ++ rest)).head?, c ≠ ' ' := by
      obtain ⟨first, more, rfl⟩ := List.exists_cons_of_ne_nil hstart
      rintro _ ⟨⟩ rfl
      exact absurd (hpath ' ' List.mem_cons_self) (by decide)
    have hlast : '/' ∉ (program ++ rest).takeWhile isPathChar := by
      rw [Text.takeWhile_append_of_stop hrest]
      intro hmem
      exact absurd (hletters '/' ((List.takeWhile_prefix _).subset hmem)) (by decide)
    have hcomponent := lastComponent?_append hpath hstart hlast
      (programName?_of_letters hne hletters hrest)
    rw [List.append_assoc, List.cons_append] at hline
    rw [hline, interpreter?_of_command spaces hspace, hcomponent]
    cases henv : envArgument? (start ++ '/' :: (program ++ rest)) with
    | none => rfl
    | some other =>
      obtain ⟨path, argument, hcommand, hpath, hvisible, hname⟩ := envArgument?_eq_some_iff.mp henv
      have hgives : GivesEnv argument line :=
        ⟨spaces, path, by rw [hline, hcommand], hpath, hvisible⟩
      rw [hother argument other hgives hname]
      rfl

end Program

end Shebang

/-! ## The language of a script -/

namespace Detector

def TakenFor (p : Path) (content : List UInt8) (language : Value) : Prop :=
  ∀ (d : Detector) (t : FileTree), d.registry = .bundled →
    d.detect t p (some content) = .ok language ∧
      (t.read p = .ok content → d.detect t p none = .ok language)

/-- The file with this content is counted with this grammar, unless its language is left out. -/
def CountedWith (p : Path) (content : List UInt8) (grammar : FileCounter → Option Grammar) : Prop :=
  ∀ (c : FileCounter) (t : FileTree), c.detector.registry = .bundled → t.read p = .ok content →
    c.count t p =
      match (grammar c).filter fun g => c.filter.all (·.admits p g.name) with
      | some g => ((c.entryFor p g content).mapError .line).map some
      | none => .ok none

theorem TakenFor.countedWith {p : Path} {content : List UInt8} {language : Value}
    (h : TakenFor p content language) {grammar : FileCounter → Option Grammar}
    (hgrammar : ∀ c : FileCounter, c.detector.registry = .bundled →
      c.grammar? language = .ok (grammar c)) : CountedWith p content grammar := by
  intro c t hregistry hread
  have hdetect : c.detector.detect t p (t.read p).toOption = .ok language := by
    rw [hread]
    exact (h c.detector t hregistry).1
  have hfor : c.grammarAt t p =
      .ok ((grammar c).filter fun g => c.filter.all (·.admits p g.name)) := by
    rw [FileCounter.grammarAt, hdetect]
    show c.grammarFor p language = _
    rw [FileCounter.grammarFor, hgrammar c hregistry]
    rfl
  rw [FileCounter.count, hfor]
  cases (grammar c).filter fun g => c.filter.all (·.admits p g.name) with
  | none => rfl
  | some g =>
    show ((c.measure t p g).mapError CountError.line).map some = _
    rw [FileCounter.measure, hread]

/-- The programs of the table are named by letters.  All of their words but that for `make` stand
for bundled languages. -/
theorem bundled_aliases : ∀ program ∈ Shebang.aliases.map Prod.fst,
    program.toList ≠ [] ∧ program.toList.all Shebang.isLetter = true ∧
      (program ≠ "make" →
        (Registry.bundled.answerFor (Shebang.wordFor program.toList)).text?.any
          fun name => Registry.bundled.contains name && !name.isEmpty) := by
  decide +kernel

/-- The word for `make` stands for no bundled language, in no letter case. -/
theorem bundled_make :
    Registry.bundled.answerFor "make" = .null ∧ Registry.bundled.lookup "make" = none := by
  decide +kernel

theorem grammar?_make {c : FileCounter} (hregistry : c.detector.registry = .bundled) :
    c.grammar? (.text "make") = .ok (if c.countUnknown then some fallbackGrammar else none) := by
  have hsomething : (Value.text "make").isNothing = false := by decide
  rw [FileCounter.grammar?, hsomething, if_neg Bool.false_ne_true, hregistry, Registry.lookupValue,
    bundled_make.2]
  rfl

theorem grammar?_of_lookup {c : FileCounter} (hregistry : c.detector.registry = .bundled)
    {name : String} (hne : name ≠ "") {g : Grammar} (h : Registry.bundled.lookup name = some g) :
    c.grammar? (.text name) = .ok (some g) := by
  have hsomething : (Value.text name).isNothing = false := by simpa [Value.isNothing] using hne
  rw [FileCounter.grammar?, hsomething, if_neg Bool.false_ne_true, hregistry, Registry.lookupValue, h]
  rfl

theorem isWritable_bundled_answer (word : String) :
    (Registry.bundled.answerFor word).isWritable = true := by
  obtain hnull | ⟨name, hname, -⟩ | ⟨-, -, hextension⟩ :=
    Registry.answerFor_cases (Eq.refl (Registry.bundled.answerFor word))
  · rw [hnull]
    rfl
  · rw [hname]
    rfl
  · obtain ⟨name, hname, -⟩ := Registry.known_of_bundled_extension hextension
    rw [hname]
    rfl

/-- The language that a word for a program stands for; a word that is not listed stands for itself. -/
def scriptLanguage (word : String) : Value :=
  if (Registry.bundled.answerFor word).isNothing then .text word else Registry.bundled.answerFor word

theorem isWritable_scriptLanguage (word : String) : (scriptLanguage word).isWritable = true := by
  rw [scriptLanguage]
  split
  · rfl
  · exact isWritable_bundled_answer word

section Script

variable {p : Path} (hname : knownNames.find? p.name = none)
  (hlower : knownLowerNames.find? (Text.lower p.name) = none) (hext : p.extension = "")

include hname hlower hext

theorem placement_of_no_extension {d : Detector} (hregistry : d.registry = .bundled) :
    d.placement p = .unlisted "" := by
  have hshared : Registry.bundled.shared.find? "" = none := by decide
  have hlisted : Registry.bundled.extensions.find? "" = none := by decide
  have hplace : d.placement p = .unlisted p.extension :=
    placement_of_unlisted ⟨hname, hlower⟩ (by rw [hregistry, hext, hshared])
      (by rw [hregistry, hext, hlisted])
  rwa [hext] at hplace

theorem takenFor_of_word {content : List UInt8} {word : String}
    (hword : interpreterWord? (cutLine content) = some word) :
    TakenFor p content (scriptLanguage word) := by
  intro d t hregistry
  have hlanguage : d.languageOf p (some content) = .ok (scriptLanguage word) := by
    rw [languageOf, placement_of_no_extension hname hlower hext hregistry]
    simp [interpreterLanguage?, hword, hregistry, scriptLanguage]
  have hgiven : d.detect t p (some content) = .ok (scriptLanguage word) := by
    show d.languageOf p (some content) >>= d.checked = _
    rw [hlanguage]
    exact checked_of_writable (isWritable_scriptLanguage word)
  exact ⟨hgiven, fun hread => (d.detect_none_of_read hread).trans hgiven⟩

open Shebang in
/-- A file without an extension, whose first line names a program of the table and gives no other
one to `env`, is of a bundled language and is counted with its grammar.  Only `make` stands for no
language: its files are counted as those of unknown ones, or not at all.  A line that gives a
program to `env` is for that program, also where the path to `env` looks like one to another. -/
theorem detect_script (content : List UInt8) :
    let text := Text.trimStart (Text.Utf8.decodeDropping (cutLine content))
    (∀ program ∈ aliases.map Prod.fst, Names program.toList text →
      (∀ argument other, GivesEnv argument text → programName? argument = some other →
        other = program.toList) →
      (program ≠ "make" → ∃ g, Registry.bundled.lookup g.name = some g ∧
        Registry.bundled.answerFor (wordFor program.toList) = .text g.name ∧
        TakenFor p content (.text g.name) ∧ CountedWith p content fun _ => some g) ∧
      (program = "make" → Registry.bundled.lookup "make" = none ∧
        TakenFor p content (.text "make") ∧
        CountedWith p content fun c => if c.countUnknown then some fallbackGrammar else none)) ∧
    ∀ argument other, GivesEnv argument text → programName? argument = some other →
      TakenFor p content (scriptLanguage (wordFor other)) := by
  intro text
  refine ⟨fun program hprogram hnames hother => ?_, fun argument other hgives hother => ?_⟩
  · obtain ⟨hne, hletters, hlisted⟩ := bundled_aliases program hprogram
    have hword : interpreterWord? (cutLine content) = some (wordFor program.toList) := by
      rw [interpreterWord?_eq]
      exact interpreter?_of_names hne (List.all_eq_true.mp hletters) hnames hother
    have htaken := takenFor_of_word hname hlower hext hword
    refine ⟨fun hmake => ?_, fun hmake => ?_⟩
    · obtain ⟨language, htext, hknown⟩ := (Option.any_eq_true _ _).mp (hlisted hmake)
      obtain ⟨hcontains, hnonempty⟩ := Bool.and_eq_true_iff.mp hknown
      obtain ⟨g, hlookup, rfl⟩ := Registry.exists_lookup hcontains
      have hanswer := Value.text?_eq_some.mp htext
      have hne : g.name ≠ "" := by simpa using hnonempty
      have hlanguage : scriptLanguage (wordFor program.toList) = .text g.name := by
        rw [scriptLanguage, hanswer, if_neg (by simpa [Value.isNothing] using hne)]
      rw [hlanguage] at htaken
      exact ⟨g, hlookup, hanswer, htaken, htaken.countedWith fun c hregistry =>
        grammar?_of_lookup hregistry hne hlookup⟩
    · subst hmake
      have hmake : scriptLanguage (wordFor "make".toList) = .text "make" := by decide +kernel
      rw [hmake] at htaken
      exact ⟨bundled_make.2, htaken, htaken.countedWith fun c => grammar?_make⟩
  · refine takenFor_of_word hname hlower hext ?_
    rw [interpreterWord?_eq]
    exact interpreter?_of_givesEnv hgives hother

end Script

open Shebang in
/-- Perl behind a byte of no character and a space, and Ruby, given to `env` in a directory with the
name of Perl. -/
theorem detect_script_instances :
    let p := Path.ofString "run"
    let content := 0xc3 :: Text.Utf8.encode " #!/usr/bin/perl5 -w\nx".toList
    let content' := Text.Utf8.encode "#!/bin/perl-5/env ruby".toList
    knownNames.find? p.name = none ∧ knownLowerNames.find? (Text.lower p.name) = none ∧
      p.extension = "" ∧ TakenFor p content (.text "Perl") ∧
      CountedWith p content (fun _ => Registry.bundled.lookup "Perl") ∧
      TakenFor p content' (.text "Ruby") := by
  intro p content content'
  have hname : knownNames.find? p.name = none := by decide
  have hlower : knownLowerNames.find? (Text.lower p.name) = none := by decide
  have hext : p.extension = "" := by decide
  have hperl := (detect_script hname hlower hext content).1 "perl" (by decide)
  have hruby := (detect_script hname hlower hext content').2 "ruby".toList "ruby".toList
  have htext : Text.trimStart (Text.Utf8.decodeDropping (cutLine content)) =
      "#!/usr/bin/perl5 -w".toList := by decide
  have htext' : Text.trimStart (Text.Utf8.decodeDropping (cutLine content')) =
      "#!/bin/perl-5/env ruby".toList := by decide
  rw [htext] at hperl
  rw [htext'] at hruby
  have hnames : Names "perl".toList "#!/usr/bin/perl5 -w".toList :=
    .path 0 "/usr/bin".toList "5 -w".toList (by decide) (by decide)
      (List.all_eq_true.mp (by decide)) (by rintro c ⟨⟩; decide)
  have hother : ∀ argument other, GivesEnv argument "#!/usr/bin/perl5 -w".toList →
      programName? argument = some other → other = "perl".toList := fun _ _ hgives =>
    absurd (infix_of_givesEnv hgives) (by decide)
  obtain ⟨g, hlookup, hlanguage, htaken, hcounted⟩ := (hperl hnames hother).1 (by decide)
  have hword : Registry.bundled.answerFor (wordFor "perl".toList) = .text "Perl" := by decide +kernel
  have hg : g.name = "Perl" := Value.text.inj (hlanguage.symm.trans hword)
  rw [hg] at hlookup htaken
  have hgives : GivesEnv "ruby".toList "#!/bin/perl-5/env ruby".toList :=
    ⟨0, "/bin/perl-5".toList, by decide, by decide, visible_of_all (by decide)⟩
  have hword' : scriptLanguage (wordFor "ruby".toList) = .text "Ruby" := by decide +kernel
  refine ⟨hname, hlower, hext, htaken, ?_, hword' ▸ hruby hgives (by decide)⟩
  rw [hlookup]
  exact hcounted

/-- Of a script for `make`, though the table lists it, no bundled language is found, and the file is
not counted. -/
theorem detect_make_script :
    let content := Text.Utf8.encode "#!/usr/bin/make -f\n".toList
    let t : FileTree := { root := [("run", .file content)] }
    let c : FileCounter := { encoder := List.length }
    "make" ∈ Shebang.aliases.map Prod.fst ∧
      c.detector.detect t (.ofString "run") (some content) = .ok (.text "make") ∧
      Registry.bundled.lookup "make" = none ∧ c.count t (.ofString "run") = .ok none := by
  intro content t c
  have hread : t.read (.ofString "run") = .ok content :=
    FileTree.read_of_entry "run" rfl (by decide) rfl
  have hword : interpreterWord? (cutLine content) = some "make" := by decide
  have htaken := takenFor_of_word (p := .ofString "run") (by decide) (by decide)
    (by decide) hword
  have hlanguage : scriptLanguage "make" = .text "make" := by decide +kernel
  rw [hlanguage] at htaken
  have hcounted := htaken.countedWith fun c => grammar?_make
  exact ⟨by decide, (htaken c.detector t rfl).1, bundled_make.2, hcounted c t rfl hread⟩

end Detector

end LineCensus
