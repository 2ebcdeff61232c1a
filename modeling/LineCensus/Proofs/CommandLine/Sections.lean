import LineCensus.Proofs.CommandLine.Effects
import LineCensus.Proofs.CommandLine.Given
import LineCensus.Proofs.CommandLine.Refusals
import LineCensus.Proofs.Files.Concealed

/-!
# Counts by the section of a configuration

The options of a count can be given on the command line, or in the section of the configuration that
applies.  Both make the same plan, and the configuration file is hidden, so that it is not counted.
What becomes of the count is the same, but for one thing: a section cannot ask for an output file.
-/

namespace LineCensus

/-! ## Plans that differ in empty patterns -/

theorem PathPatterns.pattern_filter (text : Option String) :
    PathPatterns.pattern (text.filter (!·.isEmpty)) = PathPatterns.pattern text := by
  cases text with
  | none => rfl
  | some s =>
    by_cases hempty : s = ""
    · subst hempty
      rfl
    · simp [Option.filter, hempty]

/-- The same survey, its empty patterns being none. -/
def Survey.tidy (s : Survey) : Survey :=
  { s with options := s.options.tidy }

theorem Survey.make_tidy (o : Options) (d : Detector) (encoder : List Char → Nat) :
    Survey.make o.tidy d encoder = (Survey.make o d encoder).map Survey.tidy := by
  have hpatterns : PathPatterns.make o.tidy.nameMatch o.tidy.nameNotMatch o.tidy.dirMatch
      o.tidy.dirNotMatch = PathPatterns.make o.nameMatch o.nameNotMatch o.dirMatch
        o.dirNotMatch := by
    simp only [PathPatterns.make, Options.tidy, PathPatterns.pattern_filter]
  rw [Survey.make, Survey.make, hpatterns]
  cases PathPatterns.make o.nameMatch o.nameNotMatch o.dirMatch o.dirNotMatch <;> rfl

namespace CommandLine

open Settings

def Plan.tidy (p : Plan) : Plan :=
  { p with survey := p.survey.tidy }

variable {u : Services} {t t' : FileTree} {r r₁ r₂ : CountRequest} {settings₁ settings₂ : List (Value × Value)}

theorem carryOut_tidy (t : FileTree) (r : CountRequest) (p : Plan) :
    carryOut t r p.tidy = carryOut t r p := rfl

/-- Two settings that say what one command line says, and have the rest in common. -/
structure Agree (r : CountRequest) (settings₁ settings₂ : List (Value × Value)) : Prop where
  left : Said r.settings settings₁
  right : Said r.settings settings₂
  rest : unsaid settings₁ = unsaid settings₂

theorem Agree.ofSection_eq (h : Agree r settings₁ settings₂)
    (hjobs : ∀ n, r.jobs = some n → 0 < n) :
    (Options.ofSection settings₁).map Options.tidy =
      (Options.ofSection settings₂).map Options.tidy := by
  rw [ofSection_of_said h.left hjobs, ofSection_of_said h.right hjobs, h.rest]

theorem Agree.isOn_eq (h : Agree r settings₁ settings₂) {name : String} {v : Value}
    (hgiven : (name, v) ∈ r.settings) : isOn settings₁ name = isOn settings₂ name := by
  rw [isOn_of_said h.left hgiven, isOn_of_said h.right hgiven]

theorem Agree.word_eq (h : Agree r settings₁ settings₂) {name : String} {text : Option String}
    (hgiven : (name, textOrNull text) ∈ r.settings) (default : String) :
    word settings₁ name default = word settings₂ name default := by
  rw [word_of_said h.left hgiven, word_of_said h.right hgiven]

/-- Settings that agree make one plan. -/
theorem Agree.plan_eq (h : Agree r settings₁ settings₂) (hjobs : ∀ n, r.jobs = some n → 0 < n)
    (h₁ : settingsFor u t r₁ = .ok settings₁) (h₂ : settingsFor u t' r₂ = .ok settings₂)
    (hfile₁ : r₁.languagesFile = none) (hfile₂ : r₂.languagesFile = none)
    (hdebug : r₁.debug = r₂.debug) :
    (plan u t r₁).map Plan.tidy = (plan u t' r₂).map Plan.tidy := by
  have hbyFile : isOn settings₁ "by_file" = isOn settings₂ "by_file" :=
    h.isOn_eq (v := .bool r.byFile) (by simp [CountRequest.settings])
  have hmemSort : ("sort", textOrNull r.sort) ∈ r.settings := by simp [CountRequest.settings]
  have hmemType : ("output_type", textOrNull r.outputType) ∈ r.settings := by
    simp [CountRequest.settings]
  have hsort := h.word_eq hmemSort Ranking.code.text
  have htype := h.word_eq hmemType Format.table.text
  rw [plan, plan, h₁, h₂, hfile₁, hfile₂, hdebug]
  simp only [bind, Except.bind, hbyFile, hsort, htype]
  rw [word_of_said h.right hmemSort, word_of_said h.right hmemType]
  dsimp only
  cases keyFor (if (textOrNull r.sort).isNothing then Ranking.code.text
      else (textOrNull r.sort).shown) with
  | error f => rfl
  | ok key =>
    dsimp only
    split
    · rfl
    cases typeFor (if (textOrNull r.outputType).isNothing then Format.table.text
        else (textOrNull r.outputType).shown) with
    | error f => rfl
    | ok type =>
      dsimp only
      rw [optionsFor, optionsFor]
      rcases Fallible.map_eq_map.mp (h.ofSection_eq hjobs) with
        ⟨e, he₁, he₂⟩ | ⟨o₁, o₂, ho₁, ho₂, htidy⟩
      · rw [he₁, he₂]
        rfl
      · let detector : Detector := { registry := .bundled, watched := r₂.debug }
        have hmake : (Survey.make o₁ detector u.encoder).map Survey.tidy =
            (Survey.make o₂ detector u.encoder).map Survey.tidy := by
          rw [← Survey.make_tidy, ← Survey.make_tidy, htidy]
        rw [ho₁, ho₂]
        simp only [Except.mapError, registryFor]
        rcases Fallible.map_eq_map.mp hmake with ⟨e, he₁, he₂⟩ | ⟨s₁, s₂, hs₁, hs₂, hsame⟩
        · rw [he₁, he₂]
        · rw [hs₁, hs₂]
          show Except.ok (Plan.mk { s₁.tidy with watched := r₂.debug } key type _) =
            Except.ok (Plan.mk { s₂.tidy with watched := r₂.debug } key type _)
          rw [hsame]

theorem includeHidden_of_plan {p : Plan} (hplan : plan u t r₁ = .ok p)
    (hsettings : settingsFor u t r₁ = .ok settings₁) (hsaid : Said r.settings settings₁)
    (hjobs : ∀ n, r.jobs = some n → 0 < n) :
    p.survey.options.includeHidden = r.includeHidden := by
  obtain ⟨settings, _, _, options, registry, survey, hfound, -, -, -, -, hoptions, -, hsurvey, -, -,
    hp⟩ := plan_eq_ok hplan
  cases hsettings.symm.trans hfound
  obtain ⟨pathPatterns, -, rfl⟩ := Survey.make_eq_ok.mp hsurvey
  have hsection := ofSection_of_said hsaid hjobs
  rw [Fallible.mapError_eq_ok.mp hoptions] at hsection
  obtain ⟨o, -, htidy⟩ := Fallible.map_eq_ok.mp hsection.symm
  have hhidden : options.tidy.includeHidden = r.includeHidden := by rw [← htidy]; rfl
  rw [hp]
  exact hhidden

/-! ## Settings of the two sources -/

def CountRequest.unset (r : CountRequest) : CountRequest :=
  { paths := r.paths, noGitignore := r.noGitignore, debug := r.debug }

def configFile (t : FileTree) (paths : List Path) : Path :=
  (directoryFor t paths).child fileName

/-- A configuration is written that says in its section what the command line says.  The earlier
section says nothing of it, and has the rest in common. -/
structure Restates (u : Services) (t : FileTree) (r : CountRequest) (content : List UInt8)
    (t' : FileTree) : Prop where
  /-- The file is no link to another one, and not counted, nor taken for an ignore file. -/
  place : ∃ outer, t.locate true (configFile t r.paths) = .ok (fileName :: outer) ∧
    ∀ p ∈ r.paths, t'.Avoids (fileName :: outer) p
  written : t.write (configFile t r.paths) content = .ok t'
  sections : ∃ config config', load u.parse t (directoryFor t r.paths) = .ok config ∧
    ofBytes u.parse content = .ok config' ∧ Said r.settings (sectionOf config' "count") ∧
    sectionOf config "count" = unsaid (sectionOf config' "count")

theorem nodup_settings (r : CountRequest) : (r.settings.map Prod.fst).Nodup := by
  have hnames : r.settings.map Prod.fst = ({ paths := [] } : CountRequest).settings.map Prod.fst :=
    rfl
  rw [hnames]
  decide

/-- The one option of the command line that no setting stands for is laid over both. -/
theorem Agree.setEntry (h : Agree r settings₁ settings₂) (b : Bool) :
    Agree r (if b then Value.setEntry settings₁ (.text "respect_gitignore") (.bool false)
        else settings₁)
      (if b then Value.setEntry settings₂ (.text "respect_gitignore") (.bool false)
        else settings₂) := by
  have hown : "respect_gitignore" ∉ ownNames := by decide
  cases b with
  | false => exact h
  | true =>
    refine ⟨h.left.setEntry (fun v hv => hown (mem_ownNames hv)) _,
      h.right.setEntry (fun v hv => hown (mem_ownNames hv)) _, ?_⟩
    simp only [if_true, unsaid_setEntry hown, h.rest]

theorem agree_of_sections {config config' : List (Value × Value)}
    (hsaid : Said r.settings (sectionOf config' "count"))
    (hrest : sectionOf config "count" = unsaid (sectionOf config' "count")) :
    Agree r (overlay config "count" r.settings) (overlay config' "count" r.unset.settings) := by
  have hunset : overlay config' "count" r.unset.settings = sectionOf config' "count" := rfl
  rw [hunset]
  refine ⟨said_overlay (nodup_settings r) ?_, hsaid, ?_⟩
  · intro name v w hgiven hentry
    rw [hrest] at hentry
    have hown := (List.mem_filter.mp hentry).2
    rw [isOwn_text.mpr (mem_ownNames hgiven)] at hown
    cases hown
  · rw [unsaid_overlay, hrest, unsaid_unsaid]

/-! ## Counts that pass over the configuration file -/

theorem detect_eq_of_read {p : Path} (h : t'.read p = t.read p) (d : Detector)
    (content : Option (List UInt8)) : d.detect t' p content = d.detect t p content := by
  rw [Detector.detect, Detector.detect, FileTree.readLine, FileTree.readLine, h]

theorem count_eq_of_read {p : Path} (h : t'.read p = t.read p) (c : FileCounter) :
    c.count t' p = c.count t p := by
  have hgrammar : c.grammarAt t' p = c.grammarAt t p := by
    rw [FileCounter.grammarAt, FileCounter.grammarAt, h, detect_eq_of_read h]
  have hmeasure (g : Grammar) : c.measure t' p g = c.measure t p g := by
    rw [FileCounter.measure, FileCounter.measure, h]
  simp only [FileCounter.count, hgrammar, hmeasure]

theorem traceFiles_eq_of_read {files : List Path} (h : ∀ p ∈ files, t'.read p = t.read p)
    (c : FileCounter) : traceFiles c t' files = traceFiles c t files := by
  induction files with
  | nil => rfl
  | cons p rest ih =>
    obtain ⟨hp, hrest⟩ := List.forall_mem_cons.mp h
    have hfile : traceFile c t' p = traceFile c t p := by
      rw [traceFile, traceFile, hp, detect_eq_of_read hp]
    rw [traceFiles, traceFiles, ih hrest, hfile, count_eq_of_read hp]

section Hidden

variable {place : List String} {s : Survey} {paths : List Path} (h : t.Hides t' place)
  (ht : t.Proper) (hordered : t.Ordered) (hs : s.options.includeHidden = false)
  (hpaths : ∀ p ∈ paths, t'.Avoids place p)

include h ht hordered hs hpaths

theorem take_eq_of_hides : s.take t' paths = s.take t paths := by
  have hfiles : s.files t' paths = s.files t paths := h.collect_eq hs hpaths _
  rw [Survey.take, Survey.take, hfiles]
  cases hfound : s.files t paths with
  | error e => rfl
  | ok files =>
    have hcounts (counter : FileCounter) :
        Survey.entriesOf counter t' files = Survey.entriesOf counter t files := by
      rw [Survey.entriesOf, Survey.entriesOf]
      exact congrArg _ (Fallible.mapM_congr fun q hq =>
        count_eq_of_read (h.read_eq_of_mem_collect hs ht hordered hpaths hfound hq) counter)
    simp only [Except.mapError, bind, Except.bind, hcounts]

theorem trace_eq_of_hides : trace s t' paths = trace s t paths := by
  have hfiles : s.files t' paths = s.files t paths := h.collect_eq hs hpaths _
  rw [trace, trace, hfiles]
  cases hfound : s.files t paths with
  | error e => rfl
  | ok files =>
    have hread : ∀ q ∈ files, t'.read q = t.read q :=
      fun q hq => h.read_eq_of_mem_collect hs ht hordered hpaths hfound hq
    cases s.counter with
    | error fault => rfl
    | ok counter => exact traceFiles_eq_of_read hread counter

end Hidden

theorem carryOut_eq_of_hides {place : List String} {p : Plan} (h : t.Hides t' place)
    (ht : t.Proper) (hordered : t.Ordered) (hhidden : p.survey.options.includeHidden = false)
    (hpaths : ∀ q ∈ r.paths, t'.Avoids place q) :
    carryOut t' r.unset p =
      { carryOut t { r with outputFile := none } p with tree := t' } := by
  have htake : p.survey.take t' r.paths = p.survey.take t r.paths :=
    take_eq_of_hides h ht hordered hhidden hpaths
  have htrace : trace p.survey t' r.paths = trace p.survey t r.paths :=
    trace_eq_of_hides h ht hordered hhidden hpaths
  rw [carryOut, carryOut]
  simp only [CountRequest.unset, htake, htrace]
  cases p.survey.take t r.paths <;> rfl

/-- The configuration is written to a hidden place. -/
theorem Restates.exists_hides {content : List UInt8} (h : Restates u t r content t')
    (hordered : t.Ordered) :
    ∃ place, t.Hides t' place ∧ ∀ p ∈ r.paths, t'.Avoids place p := by
  obtain ⟨outer, hplace, havoids⟩ := h.place
  refine ⟨_, FileTree.hides_of_write hordered ?_ hplace (by decide +kernel) h.written, havoids⟩
  simp [configFile, Path.child]

theorem directoryFor_eq_of_hides {place : List String} (h : t.Hides t' place) {paths : List Path}
    (hpaths : ∀ p ∈ paths, t'.Avoids place p) : directoryFor t' paths = directoryFor t paths := by
  cases paths with
  | nil => rfl
  | cons p rest =>
    rw [directoryFor, directoryFor, h.isDirectory_eq (hpaths p List.mem_cons_self).itself]

theorem Restates.exists_agree {content : List UInt8} (h : Restates u t r content t')
    (hordered : t.Ordered) :
    ∃ settings₁ settings₂, settingsFor u t r = .ok settings₁ ∧
      settingsFor u t' r.unset = .ok settings₂ ∧ Agree r settings₁ settings₂ := by
  obtain ⟨place, hhides, hpaths⟩ := h.exists_hides hordered
  obtain ⟨config, config', hload, hcontent, hsaid, hrest⟩ := h.sections
  have hload' : load u.parse t' (directoryFor t' r.paths) = .ok config' := by
    have hread := FileTree.read_of_write (by simp [configFile, Path.child]) h.written
    rw [directoryFor_eq_of_hides hhides hpaths, load_of_read hread, hcontent]
  exact ⟨_, _, settingsFor_of_load hload, settingsFor_of_load hload',
    (agree_of_sections hsaid hrest).setEntry _⟩

theorem outcome_eq (f : Failure) (messages : String) :
    f.outcome t' messages = { f.outcome t messages with tree := t' } := by
  cases f <;> rfl

/-- What the section says is counted like what the command line says, and printed. -/
theorem Restates.run_eq {content : List UInt8} (h : Restates u t r content t') (ht : t.Proper)
    (hordered : t.Ordered) (hhidden : r.includeHidden = false) (hfile : r.languagesFile = none)
    (hjobs : ∀ n, r.jobs = some n → 0 < n) :
    run u t' (.count r.unset) =
      { run u t (.count { r with outputFile := none }) with tree := t' } := by
  obtain ⟨place, hhides, hpaths⟩ := h.exists_hides hordered
  obtain ⟨settings₁, settings₂, hsettings₁, hsettings₂, hagree⟩ := h.exists_agree hordered
  have hplans := hagree.plan_eq hjobs hsettings₁ hsettings₂ hfile rfl rfl
  rw [← plan_printing] at hplans
  rcases Fallible.map_eq_map.mp hplans with ⟨f, hf₁, hf₂⟩ | ⟨p₁, p₂, hplan₁, hplan₂, htidy⟩
  · rw [run_of_unplanned hf₁, run_of_unplanned hf₂, outcome_eq]
  · have hincludes : p₁.survey.options.includeHidden = false :=
      (includeHidden_of_plan hplan₁ hsettings₁ hagree.left hjobs).trans hhidden
    rw [run_of_planned hplan₁, run_of_planned hplan₂, ← carryOut_tidy, ← htidy, carryOut_tidy]
    exact carryOut_eq_of_hides hhides ht hordered hincludes hpaths

/-- A count that is refused is refused with or without an output file. -/
theorem run_printing_of_refused (hcode : (run u t (.count r)).exitCode ≠ 0)
    (haccident : (run u t (.count r)).accident = none) :
    run u t (.count { r with outputFile := none }) = run u t (.count r) := by
  cases hplan : plan u t r with
  | error f => rw [run_of_unplanned hplan, run_of_unplanned ((plan_printing u t r).trans hplan)]
  | ok planned =>
    rw [run_of_planned hplan] at hcode haccident
    rcases carryOut_cases t r planned with ⟨-, hsome⟩ | ⟨hzero, -⟩
    · exact absurd haccident hsome
    · exact absurd hzero hcode

theorem tree_of_printing (hfile : r.outputFile = none) : (run u t (.count r)).tree = t := by
  cases hplan : plan u t r with
  | error f =>
    rw [run_of_unplanned hplan]
    cases f <;> rfl
  | ok planned =>
    rw [run_of_planned hplan, carryOut, hfile]
    cases planned.survey.take t r.paths <;> rfl

/-- A count by options on the command line, and one by the same options in the section of the
configuration, end with the same outcome, each with its tree as it was, unless there is to be an
output file.  That works on the command line alone: whatever the section says of it, the report
which the command line would have saved is printed.  A count that is refused is refused either
way. -/
theorem runArgs_restated {u : Services} {t t' : FileTree} (ht : t.Proper) (hordered : t.Ordered)
    {flags plain : List String} {r : CountRequest} {content : List UInt8}
    (hflags : Request.ofArgs t flags = .ok (.count r)) (hhidden : r.includeHidden = false)
    (hfile : r.languagesFile = none) (h : Restates u t r content t')
    (hplain : Request.ofArgs t' plain = .ok (.count r.unset)) :
    let given := runArgs u t flags
    let said := runArgs u t' plain
    (r.outputFile = none → said = { given with tree := t' } ∧ given.tree = t) ∧
    ∀ p, r.outputFile = some p →
      said.tree = t' ∧
      (given.exitCode ≠ 0 → given.accident = none → said = { given with tree := t' }) ∧
      (given.exitCode = 0 → said.exitCode = 0 ∧ given.output = "" ∧
        ∃ report, said.output = Text.unstyled report ∧
          t.Saves given.tree p report.toUTF8.toList) := by
  intro given said
  have hgiven : given = run u t (.count r) := by
    simp only [given, runArgs, hflags]
  have hsaid : said = { run u t (.count { r with outputFile := none }) with tree := t' } := by
    rw [← h.run_eq ht hordered hhidden hfile fun n hn => jobs_pos hflags hn]
    simp only [said, runArgs, hplain]
  rw [hgiven, hsaid]
  constructor
  · intro hnone
    have hsame : { r with outputFile := none } = r := by rw [← hnone]
    rw [hsame]
    exact ⟨rfl, tree_of_printing hnone⟩
  · intro p hsome
    refine ⟨rfl, fun hcode haccident => ?_, fun hcode => ?_⟩
    · rw [run_printing_of_refused hcode haccident]
    · obtain ⟨report, hdelivers⟩ := exists_delivers_of_run hcode
      obtain ⟨houtput, hsaves⟩ := hdelivers.saved p hsome
      exact ⟨hdelivers.printed_code, houtput, report, hdelivers.output, hsaves⟩

/-! ## A directory with nothing but a configuration -/

theorem configFile_configured (content : List UInt8) :
    configFile (configured content) [{}] = { parts := [fileName] } := by
  cbv

theorem avoids_configured (content : List UInt8) : (configured content).Avoids [fileName] {} := by
  have hitself : (configured content).locate true {} = .ok [] := by
    cbv
  have hignore : (configured content).locate true
      (((({} : Path).absolute (configured content).cwd)).child Walk.ignoreFile) =
        .ok [Walk.ignoreFile] := by
    cbv
  constructor
  · rw [hitself]
    intro heq
    cases heq
  · rw [hignore]
    exact fun h => absurd (List.cons.inj (Except.ok.inj h)).1 (by decide)

theorem restates_configured {r : CountRequest} {content content' : List UInt8}
    {config config' : List (Value × Value)} (hpaths : r.paths = [{}])
    (hconfig : ofBytes u.parse content = .ok config)
    (hconfig' : ofBytes u.parse content' = .ok config')
    (hsaid : Said r.settings (sectionOf config' "count"))
    (hrest : sectionOf config "count" = unsaid (sectionOf config' "count")) :
    Restates u (configured content) r content' (configured content') := by
  have hdirectory : directoryFor (configured content) [{}] = {} := by
    cbv
  refine ⟨⟨[], ?_, ?_⟩, ?_, config, config', ?_, hconfig', hsaid, hrest⟩
  · rw [hpaths, configFile_configured]
    cbv
  · rw [hpaths]
    exact List.forall_mem_singleton.mpr (avoids_configured content')
  · rw [hpaths, configFile_configured]
    cbv
  · rw [hpaths, hdirectory, load_of_read (read_configured content), hconfig]

/-- A key, a number of workers and an output file, above what only a section can say. -/
theorem runArgs_restated_configured :
    let u := Services.plain
    let bytes (text : String) := Text.Utf8.encode text.toList
    let t := configured (bytes "count: \x7bmax_line_length: 80\x7d\n")
    let t' := configured
      (bytes "count: \x7bsort: name, max_line_length: 80, jobs: 2, output: out\x7d\n")
    let flags := ["count", ".", "--sort", "name", "-j", "2"]
    (runArgs u t' ["count", "."] = { runArgs u t flags with tree := t' } ∧ (runArgs u t flags).tree = t) ∧
      (runArgs u t' ["count", "."]).tree = t' := by
  intro u bytes t t' flags
  let r : CountRequest := { paths := [{}], sort := some "name", jobs := some 2 }
  let saving : CountRequest := { r with outputFile := some { parts := ["out"] } }
  have hproper : t.Proper := by
    rw [FileTree.Proper]
    exact FileNode.properEntries_cons.mpr ⟨by decide, trivial, FileNode.properEntries_nil⟩
  have hordered : t.Ordered :=
    FileNode.orderedEntries_cons.mpr ⟨by simp, trivial, FileNode.orderedEntries_nil⟩
  have hconfig : ofBytes u.parse (bytes "count: \x7bmax_line_length: 80\x7d\n") =
      .ok [(.text "count", .mapping [(.text "max_line_length", .int 80)])] :=
    Fallible.toOption_eq_some.mp (by decide +kernel)
  have hconfig' :
      ofBytes u.parse
        (bytes "count: \x7bsort: name, max_line_length: 80, jobs: 2, output: out\x7d\n") =
        .ok [(.text "count", .mapping
          [(.text "sort", .text "name"), (.text "max_line_length", .int 80), (.text "jobs", .int 2),
            (.text "output", .text "out")])] :=
    Fallible.toOption_eq_some.mp (by decide +kernel)
  have hsaid : Said r.settings
      [(.text "sort", .text "name"), (.text "max_line_length", .int 80), (.text "jobs", .int 2),
        (.text "output", .text "out")] := by
    decide
  have hplain : Request.ofArgs t' ["count", "."] = .ok (.count r.unset) := by
    cbv
  have hflags : Request.ofArgs t flags = .ok (.count r) := by
    cbv
  have hsaving : Request.ofArgs t (flags ++ ["-o", "out"]) = .ok (.count saving) := by
    cbv
  have hrestates : Restates u t r _ t' := restates_configured rfl hconfig hconfig' hsaid rfl
  have hrestates' : Restates u t saving _ t' := restates_configured rfl hconfig hconfig' hsaid rfl
  constructor
  · exact (runArgs_restated hproper hordered hflags rfl rfl hrestates hplain).1 rfl
  · exact ((runArgs_restated hproper hordered hsaving rfl rfl hrestates' hplain).2 _ rfl).1

/-- An output file that the command line asks for is written, one that the section asks for not. -/
theorem runArgs_output_in_section :
    let u := Services.plain
    let content := Text.Utf8.encode "count: \x7boutput_type: sloccount, output: out\x7d\n".toList
    let flags := ["count", ".", "--output-type", "sloccount", "--output", "out"]
    let out : Path := { parts := ["out"] }
    ofBytes u.parse content = .ok [(.text "count", .mapping
        [(.text "output_type", .text "sloccount"), (.text "output", .text "out")])] ∧
      FileTree.write {} (configFile {} [{}]) content = .ok (configured content) ∧
      (runArgs u {} flags).exitCode = 0 ∧ (runArgs u {} flags).tree.read out = .ok [] ∧
      (runArgs u (configured content) ["count", "."]).tree.read out = .error .notFound := by
  intro u content flags out
  have hgiven : ∃ messages, runArgs u {} flags =
      { messages, tree := { root := [("out", .file [])] } } := by
    let saving : CountRequest :=
      { paths := [{}], outputType := some "sloccount", outputFile := some out }
    let survey : Survey := { encoder := u.encoder }
    let planned : Plan := ⟨survey, .code, .sloccount, false⟩
    have hflags : Request.ofArgs {} flags = .ok (.count saving) := by
      cbv
    have hsettings : settingsFor u {} saving = .ok [(.text "output_type", .text "sloccount")] := by
      cbv
    have hplan : plan u {} saving = .ok planned := by
      rw [plan, hsettings]
      rfl
    have hfiles : survey.files {} [{}] = .ok [] := by
      cbv
    have hreport : ((Census.ofEntries []).ranked .code).render .sloccount ⟨false, false⟩ = "" := by
      decide +kernel
    have hsave : save {} out "" = ({ root := [("out", .file [])] }, none) := by
      cbv
    obtain ⟨messages, hrun⟩ := carryOut_saving planned (r := saving) rfl rfl
      (Survey.take_of_no_files hfiles rfl rfl) hreport hsave
    refine ⟨messages, ?_⟩
    rw [runArgs, hflags]
    exact (run_of_planned hplan).trans hrun
  obtain ⟨messages, hgiven⟩ := hgiven
  have hplain : Request.ofArgs (configured content) ["count", "."] =
      .ok (.count { paths := [{}] }) := by
    cbv
  have htree : (runArgs u (configured content) ["count", "."]).tree = configured content := by
    rw [runArgs, hplain]
    exact tree_of_printing rfl
  refine ⟨Fallible.toOption_eq_some.mp (by decide +kernel), ?_, by rw [hgiven], ?_, ?_⟩
  · cbv
  · rw [hgiven]
    exact FileTree.read_of_entry "out" rfl (by decide) rfl
  · rw [htree]
    cbv

end CommandLine

end LineCensus
