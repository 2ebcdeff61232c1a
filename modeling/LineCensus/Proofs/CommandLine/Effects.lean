import LineCensus.Proofs.CommandLine.Plan
import LineCensus.Proofs.Files.Written
import LineCensus.Proofs.Survey.Entries

/-!
# What a count leaves behind

A count that is refused writes nothing.  One that succeeds writes its report, to the reader or into
a file, and nothing else but the directories which that file needs.
-/

namespace LineCensus.CommandLine

variable {u : Services} {t : FileTree} {r : CountRequest} {p : Path}

theorem saves_of_save {report : String} {saved : FileTree} (h : save t p report = (saved, none)) :
    t.Saves saved p report.toUTF8.toList := by
  rw [save] at h
  split at h
  · next made hmade =>
    split at h
    · next written hwritten =>
      cases h
      exact FileTree.saves_of_write hmade hwritten
    · cases h
  · next hfailed => exact absurd h (hfailed saved)

theorem plan_printing (u : Services) (t : FileTree) (r : CountRequest) :
    plan u t { r with outputFile := none } = plan u t r := rfl

/-- What a count with this report has done: it has printed the report, or saved it instead. -/
structure Delivers (t : FileTree) (r : CountRequest) (printed outcome : Outcome) (report : String) :
    Prop where
  output : printed.output = Text.unstyled report
  printed_code : printed.exitCode = 0
  printed_tree : printed.tree = t
  unsaved : r.outputFile = none → outcome = printed
  saved : ∀ p, r.outputFile = some p →
    outcome.output = "" ∧ t.Saves outcome.tree p report.toUTF8.toList

/-- A plan is carried out to its end, or ends by accident. -/
theorem carryOut_cases (t : FileTree) (r : CountRequest) (plan : Plan) :
    (carryOut t r plan).exitCode = 1 ∧ (carryOut t r plan).accident ≠ none ∨
      (carryOut t r plan).exitCode = 0 ∧ ∃ report,
        Delivers t r (carryOut t { r with outputFile := none } plan) (carryOut t r plan)
          report := by
  rw [carryOut, carryOut]
  cases plan.survey.take t r.paths with
  | error e => exact .inl ⟨rfl, nofun⟩
  | ok census =>
    cases hfile : r.outputFile with
    | none =>
      refine .inr ⟨rfl, _, rfl, rfl, rfl, fun _ => rfl, ?_⟩
      exact fun p hsome => by cases hfile.symm.trans hsome
    | some p =>
      dsimp only
      split
      · exact .inl ⟨rfl, nofun⟩
      · next saved hsaved =>
        refine .inr ⟨rfl, _, rfl, rfl, rfl, ?_, ?_⟩
        · exact fun hnone => by cases hfile.symm.trans hnone
        · rintro _ hsome
          cases hfile.symm.trans hsome
          exact ⟨rfl, saves_of_save hsaved⟩

/-! A survey in which nothing went wrong. -/

section Clean

variable (planned : Plan) {c : Census} {report : String}

theorem carryOut_printing (hdebug : r.debug = false) (hnone : r.outputFile = none)
    (htake : planned.survey.take t r.paths = .ok c) (hclean : c.failures = [])
    (hreport : (c.ranked planned.key).render planned.type
      ⟨planned.byFile, planned.survey.options.countTokens⟩ = report) :
    carryOut t r planned = { output := Text.unstyled report, tree := t } := by
  have hnothing : Text.unstyled ("" ++ unlines []) = "" := by decide +kernel
  rw [carryOut, htake, hdebug, hnone]
  simp only [hreport, warnings, hclean, List.map_nil, if_neg Bool.false_ne_true, hnothing]

theorem carryOut_saving (hdebug : r.debug = false) (hsome : r.outputFile = some p)
    (htake : planned.survey.take t r.paths = .ok c)
    (hreport : (c.ranked planned.key).render planned.type
      ⟨planned.byFile, planned.survey.options.countTokens⟩ = report)
    {saved : FileTree} (hsave : save t p report = (saved, none)) :
    ∃ messages, carryOut t r planned = { messages, tree := saved } := by
  rw [carryOut, htake, hdebug, hsome]
  simp only [hreport, hsave]
  exact ⟨_, rfl⟩

end Clean

theorem refused_of_run (hcode : (run u t (.count r)).exitCode ≠ 0)
    (haccident : (run u t (.count r)).accident = none) :
    ∃ text, run u t (.count r) =
      { exitCode := 1, messages := Text.unstyled ("❌ ERROR: " ++ text ++ "\n"), tree := t } := by
  cases hplan : plan u t r with
  | ok planned =>
    rw [run_of_planned hplan] at hcode haccident
    rcases carryOut_cases t r planned with ⟨-, hsome⟩ | ⟨hzero, -⟩
    · exact absurd haccident hsome
    · exact absurd hzero hcode
  | error f =>
    rw [run_of_unplanned hplan] at haccident ⊢
    cases f with
    | accident cause => cases haccident
    | reported text => exact ⟨text, outcome_reported t text⟩

theorem exists_delivers_of_run (hcode : (run u t (.count r)).exitCode = 0) :
    ∃ report, Delivers t r (run u t (.count { r with outputFile := none })) (run u t (.count r))
      report := by
  cases hplan : plan u t r with
  | ok planned =>
    rw [run_of_planned hplan] at hcode ⊢
    rw [run_of_planned ((plan_printing u t r).trans hplan)]
    rcases carryOut_cases t r planned with ⟨hone, -⟩ | ⟨-, hdelivers⟩
    · cases hcode.symm.trans hone
    · exact hdelivers
  | error f =>
    rw [run_of_unplanned hplan] at hcode
    cases f <;> cases hcode

/-- A count that is refused says so, prints nothing and leaves the tree as it is.  One that succeeds
has a report, which it prints, without changes of style; or saves as it is, into a file that is
the only thing that changes but for the directories made for it. -/
theorem run_count_effects (u : Services) (t : FileTree) (r : CountRequest) :
    let outcome := run u t (.count r)
    (outcome.exitCode ≠ 0 → outcome.accident = none → ∃ text,
      outcome =
        { exitCode := 1, messages := Text.unstyled ("❌ ERROR: " ++ text ++ "\n"), tree := t }) ∧
    (outcome.exitCode = 0 → ∃ report,
      Delivers t r (run u t (.count { r with outputFile := none })) outcome report) :=
  ⟨refused_of_run, exists_delivers_of_run⟩

/-- In a tree without files: a count by an unknown key, and one that is saved into a directory which
is not there. -/
theorem run_count_effects_empty :
    let u := Services.plain
    let unknown : CountRequest :=
      { paths := [{}], sort := some "size", outputFile := some { parts := ["out"] } }
    let saving : CountRequest :=
      { paths := [{}], outputType := some "sloccount",
        outputFile := some { parts := ["reports", "out"] } }
    (∃ text, run u {} (.count unknown) =
      { exitCode := 1, messages := Text.unstyled ("❌ ERROR: " ++ text ++ "\n"), tree := {} }) ∧
    (run u {} (.count saving)).exitCode = 0 ∧
    ∃ content, FileTree.Saves {} (run u {} (.count saving)).tree { parts := ["reports", "out"] }
      content := by
  intro u unknown saving
  have hrefused : (run u {} (.count unknown)).exitCode ≠ 0 ∧
      (run u {} (.count unknown)).accident = none := by
    have hsettings : settingsFor u {} unknown = .ok [(.text "sort", .text "size")] := by cbv
    have hplan : ∃ text, plan u {} unknown = .error (.reported text) := by
      rw [plan, hsettings]
      exact ⟨_, rfl⟩
    obtain ⟨text, hplan⟩ := hplan
    rw [run_of_unplanned hplan]
    exact ⟨Nat.one_ne_zero, rfl⟩
  have hsaving : (run u {} (.count saving)).exitCode = 0 := by
    let survey : Survey := { encoder := u.encoder }
    have hsettings : settingsFor u {} saving = .ok [(.text "output_type", .text "sloccount")] := by
      cbv
    let planned : Plan := ⟨survey, .code, .sloccount, false⟩
    have hplan : plan u {} saving = .ok planned := by
      rw [plan, hsettings]
      rfl
    have hfiles : survey.files {} [{}] = .ok [] := by cbv
    have htake : survey.take {} [{}] = .ok (Census.ofEntries []) :=
      Survey.take_of_no_files hfiles rfl rfl
    have hsave : save {} { parts := ["reports", "out"] } "" =
      ({ root := [("reports", .directory [("out", .file [])])] }, none) := by cbv
    have hreport : ((Census.ofEntries []).ranked .code).render .sloccount ⟨false, false⟩ = "" := by
      decide +kernel
    obtain ⟨messages, hrun⟩ := carryOut_saving planned (r := saving) rfl rfl htake hreport hsave
    rw [run_of_planned hplan, hrun]
  refine ⟨?_, hsaving, ?_⟩
  · exact (run_count_effects u {} unknown).1 hrefused.1 hrefused.2
  · obtain ⟨report, hdelivers⟩ := (run_count_effects u {} saving).2 hsaving
    exact ⟨_, (hdelivers.saved _ rfl).2⟩

/-- The name of a file can hold a change of style, which is saved, but not printed. -/
theorem run_saving_styled :
    let u := Services.plain
    let t : FileTree := { root := [("\x1b[31mx.py", .file [])] }
    let r : CountRequest :=
      { paths := [{}], outputType := some "sloccount", outputFile := some { parts := ["out"] } }
    let printed := (run u t (.count { r with outputFile := none })).output
    (run u t (.count r)).exitCode = 0 ∧
      (run u t (.count r)).tree.read { parts := ["out"] } =
        .ok "0\tPython\t\t\x1b[31mx.py\n".toUTF8.toList ∧
      printed = "0\tPython\t\tx.py\n" ∧
      (run u t (.count r)).tree.read { parts := ["out"] } ≠ .ok printed.toUTF8.toList := by
  intro u t r printed
  let report := "0\tPython\t\t\x1b[31mx.py\n"
  let survey : Survey := { encoder := u.encoder }
  let counter := survey.counterFor ⟨[], [], []⟩
  let file : Path := { parts := ["\x1b[31mx.py"] }
  let entry : FileEntry :=
    { path := "\x1b[31mx.py", language := "Python"
      contentHash := some (Digest.hex (Digest.sha256 [])) }
  have hsettings : settingsFor u t r = .ok [(.text "output_type", .text "sloccount")] := by cbv
  let planned : Plan := ⟨survey, .code, .sloccount, false⟩
  have hplan : plan u t r = .ok planned := by
    rw [plan, hsettings]
    rfl
  have hfiles : survey.files t [{}] = .ok [file] := by cbv
  have hread : t.read file = .ok [] := FileTree.read_of_entry _ rfl (by decide) rfl
  have hnamed : (counter.grammarAt t file).map (Option.map Grammar.name) = .ok (some "Python") := by
    rw [FileCounter.grammarAt_of_read hread]
    decide
  have hcount : counter.count t file = .ok (some entry) := by
    obtain ⟨found, hgrammar, hfound⟩ := Fallible.map_eq_ok.mp hnamed
    obtain ⟨g, rfl, hname⟩ := Option.map_eq_some_iff.mp hfound
    have hentry : counter.entryFor file g [] = .ok { entry with language := g.name } := rfl
    rw [hname] at hentry
    exact FileCounter.count_of_read hread hgrammar hentry
  have hkept : survey.kept (counter.counted t [file]) = [entry] := by
    rw [FileCounter.counted, List.filterMap_cons, FileCounter.entryAt_eq_some.mpr hcount]
    exact List.mergeSort_singleton _
  have htake : survey.take t [{}] = .ok (Census.ofEntries [entry]) :=
    Survey.take_eq_ok.mpr ⟨_, counter, hfiles, rfl, rfl, List.forall_mem_singleton.mpr ⟨_, hcount⟩,
      congrArg Census.ofEntries hkept⟩
  have hreport : ((Census.ofEntries [entry]).ranked .code).render .sloccount ⟨false, false⟩ =
      report := by
    decide +kernel
  have hsave : save t { parts := ["out"] } report =
    ({ root := [("\x1b[31mx.py", .file []), ("out", .file report.toUTF8.toList)] }, none) := by cbv
  obtain ⟨messages, hrun⟩ := carryOut_saving planned (r := r) rfl rfl htake hreport hsave
  rw [← run_of_planned hplan] at hrun
  have hprinted : printed = "0\tPython\t\tx.py\n" := by
    have hclean : (Census.ofEntries [entry]).failures = [] := by decide +kernel
    have hrun := carryOut_printing planned (r := { r with outputFile := none }) rfl rfl htake hclean
      hreport
    have hunstyled : Text.unstyled report = "0\tPython\t\tx.py\n" := by decide +kernel
    show (run u t (.count { r with outputFile := none })).output = _
    rw [run_of_planned ((plan_printing u t r).trans hplan), hrun, hunstyled]
  have hout : (run u t (.count r)).tree.read { parts := ["out"] } = .ok report.toUTF8.toList := by
    rw [hrun]
    exact FileTree.read_of_entry "out" rfl (by decide) rfl
  have hlength : report.toUTF8.toList.length ≠ "0\tPython\t\tx.py\n".toUTF8.toList.length := by
    decide +kernel
  refine ⟨by rw [hrun], hout, hprinted, ?_⟩
  rw [hout, hprinted]
  exact fun hsame => hlength (congrArg List.length (Except.ok.inj hsame))

end LineCensus.CommandLine
