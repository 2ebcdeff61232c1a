import LineCensus.Proofs.CommandLine.Plan
import LineCensus.Proofs.Settings.Loading
import LineCensus.Proofs.Settings.Refusals

/-!
# Counts whose options are refused

A count that no options can be made for ends before a file is looked at.  The main statement is
that the user is told why, with exit code 1, for every section but the unreadable ones; those end
the program by accident, and so does a word for the report that cannot be written.
-/

namespace LineCensus.CommandLine

variable {u : Services} {t : FileTree} {r : CountRequest} {settings : List (Value × Value)}
  {f : Failure}

/-! ## Settings that name a report -/

/-- The settings name a report that there is, so that the options among them are looked at. -/
structure NamesReport (settings : List (Value × Value)) : Prop where
  key : ∃ sort key, word settings "sort" Ranking.code.text = .ok sort ∧ keyFor sort = .ok key ∧
    ¬(isOn settings "by_file" = true ∧ key = .files)
  type : ∃ outputType type, word settings "output_type" Format.table.text = .ok outputType ∧
    typeFor outputType = .ok type

/-- A word for the report holds an integer that is too long. -/
def Unwritable (settings : List (Value × Value)) : Prop :=
  ∃ name v, (name = "sort" ∨ name = "output_type") ∧ Value.entry? settings name = some v ∧
    v.isNothing = false ∧ v.isWritable = false

theorem exists_word (h : ¬Unwritable settings) {name : String}
    (hname : name = "sort" ∨ name = "output_type") (default : String) :
    ∃ text, word settings name default = .ok text := by
  cases hword : word settings name default with
  | ok text => exact ⟨text, rfl⟩
  | error f =>
    obtain ⟨-, v, hv⟩ := word_eq_error_iff.mp hword
    exact absurd ⟨name, v, hname, hv⟩ h

theorem plan_of_unwritable (hsettings : settingsFor u t r = .ok settings)
    (h : Unwritable settings) (file : Option Path) :
    plan u t { r with languagesFile := file } = .error (.accident .unwritable) := by
  obtain ⟨name, v, hname, hv⟩ := h
  have hword (default : String) : word settings name default = .error (.accident .unwritable) :=
    word_eq_error_iff.mpr ⟨rfl, v, hv⟩
  refine Fallible.bind_eq_error.mpr (.inr ⟨settings, hsettings, ?_⟩)
  cases hsort : word settings "sort" Ranking.code.text with
  | error f =>
    rw [(word_eq_error_iff.mp hsort).1]
    rfl
  | ok sort =>
    refine Fallible.bind_eq_error.mpr (.inr ⟨sort, rfl, Fallible.bind_eq_error.mpr (.inl ?_)⟩)
    obtain rfl | rfl := hname
    · cases hsort.symm.trans (hword _)
    · exact hword _

/-- Settings that name no report are refused before anything else is looked at. -/
theorem exists_plan_of_not_namesReport (hsettings : settingsFor u t r = .ok settings)
    (hwritable : ¬Unwritable settings) (h : ¬NamesReport settings) :
    ∃ text, ∀ file, plan u t { r with languagesFile := file } = .error (.reported text) := by
  obtain ⟨sort, hsort⟩ := exists_word hwritable (.inl rfl) Ranking.code.text
  obtain ⟨outputType, houtputType⟩ := exists_word hwritable (.inr rfl) Format.table.text
  have hplan (file : Option Path) := plan.eq_1 u t { r with languagesFile := file }
  have hsame (file : Option Path) :
      settingsFor u t { r with languagesFile := file } = .ok settings := hsettings
  simp only [hsame, hsort, houtputType, bind, Except.bind] at hplan
  cases hkey : keyFor sort with
  | error f =>
    obtain ⟨text, rfl⟩ := reported_of_keyFor hkey
    exact ⟨text, fun file => by rw [hplan, hkey]⟩
  | ok key =>
    by_cases hcombined : (isOn settings "by_file" && key == .files) = true
    · exact ⟨_, fun file => by rw [hplan, hkey]; exact if_pos hcombined⟩
    · cases htype : typeFor outputType with
      | error f =>
        obtain ⟨text, rfl⟩ := reported_of_typeFor htype
        exact ⟨text, fun file => by simp only [hplan, hkey, if_neg hcombined, htype]⟩
      | ok type =>
        rw [Bool.and_eq_true, beq_iff_eq] at hcombined
        exact absurd ⟨⟨sort, key, hsort, hkey, hcombined⟩, outputType, type, houtputType, htype⟩ h

/-! ## The outcome of a refusal -/

theorem exists_plan_eq (hsettings : settingsFor u t r = .ok settings)
    (hreport : NamesReport settings) :
    ∃ finish : Options → Registry → Except Failure Plan,
      plan u t r = optionsFor settings >>= fun options =>
        registryFor u t r.languagesFile >>= finish options := by
  obtain ⟨⟨sort, key, hsort, hkey, hcombined⟩, outputType, type, houtputType, htype⟩ := hreport
  have hseparate : ¬(isOn settings "by_file" && key == .files) = true := by
    rwa [Bool.and_eq_true, beq_iff_eq]
  have hplan := plan.eq_1 u t r
  simp only [hsettings, hsort, hkey, houtputType, htype, if_neg hseparate, bind,
    Except.bind] at hplan
  exact ⟨_, hplan⟩

theorem plan_of_refused (hsettings : settingsFor u t r = .ok settings)
    (hreport : NamesReport settings) (h : optionsFor settings = .error f) :
    plan u t r = .error f := by
  obtain ⟨finish, hplan⟩ := exists_plan_eq hsettings hreport
  exact hplan.trans (Fallible.bind_eq_error.mpr (.inl h))

theorem run_of_refused (hsettings : settingsFor u t r = .ok settings)
    (hreport : NamesReport settings) (h : optionsFor settings = .error f) :
    run u t (.count r) = f.outcome t "" :=
  run_of_unplanned (plan_of_refused hsettings hreport h)

theorem run_of_worded {e : Options.Refusal} {text : String}
    (hsettings : settingsFor u t r = .ok settings) (hreport : NamesReport settings)
    (h : Options.ofSection settings = .error e) (hmessage : e.message = some text) :
    run u t (.count r) =
      { exitCode := 1
        messages := Text.unstyled ("❌ ERROR: invalid configuration: " ++ text ++ "\n")
        tree := t } := by
  have hoptions : optionsFor settings = .error (.reported ("invalid configuration: " ++ text)) := by
    rw [optionsFor, h]
    simp only [Except.mapError, hmessage]
  rw [run_of_refused hsettings hreport hoptions, outcome_reported, ← String.append_assoc]
  rfl

theorem run_of_unworded {e : Options.Refusal} (hsettings : settingsFor u t r = .ok settings)
    (hreport : NamesReport settings) (h : Options.ofSection settings = .error e)
    (hmessage : e.message = none) :
    run u t (.count r) = { exitCode := 1, accident := some (.options e), tree := t } := by
  have hoptions : optionsFor settings = .error (.accident (.options e)) := by
    rw [optionsFor, h]
    simp only [Except.mapError, hmessage]
  rw [run_of_refused hsettings hreport hoptions, outcome_accident]

/-! ## The settings of a configuration file -/

theorem settingsFor_of_load {config : List (Value × Value)}
    (h : Settings.load u.parse t (Settings.directoryFor t r.paths) = .ok config) :
    settingsFor u t r = .ok (if r.noGitignore then
      Value.setEntry (Settings.overlay config "count" r.settings) (.text "respect_gitignore")
        (.bool false) else Settings.overlay config "count" r.settings) := by
  rw [settingsFor, h]
  rfl

theorem settingsFor_configured {content : List UInt8} {text : List Char}
    {config : List (Value × Value)} (hdecode : Text.Utf8.decode content = .ok text)
    (hparse : u.parse (Registry.unifyBreaks [] text) = .ok (.mapping config)) :
    settingsFor u (Settings.configured content) { paths := [{}] } =
      .ok (Settings.overlay config "count" []) := by
  have hroot : Settings.directoryFor (Settings.configured content) [{}] = {} := by cbv
  have hload : Settings.load u.parse (Settings.configured content) {} = .ok config := by
    rw [Settings.load_of_read (Settings.read_configured content),
      Settings.ofBytes_of_decode hdecode, hparse]
    rfl
  rw [settingsFor_of_load (hroot.symm ▸ hload)]
  rfl

/-! ## The section of the count -/

/-- A count with a section that makes no options: unless the section is unreadable, the refusal is
told to the user; if it is, there is no wording for the refusal, which ends the program.  Settings
that name no report are told to the user, too, unless a word for it cannot be written. -/
theorem run_of_section (settings : List (Value × Value)) :
    (¬Options.Unreadable settings → ∀ e, Options.ofSection settings = .error e →
      ∃ text, e.message = some text ∧
        ∀ u t r, settingsFor u t r = .ok settings → NamesReport settings →
          run u t (.count r) =
            { exitCode := 1
              messages := Text.unstyled ("❌ ERROR: invalid configuration: " ++ text ++ "\n")
              tree := t }) ∧
    (Options.Unreadable settings →
      ∃ e, Options.ofSection settings = .error e ∧ e.message = none ∧
        ∀ u t r, settingsFor u t r = .ok settings → NamesReport settings →
          run u t (.count r) = { exitCode := 1, accident := some (.options e), tree := t }) ∧
    ∀ u t r, settingsFor u t r = .ok settings →
      (Unwritable settings →
        run u t (.count r) = { exitCode := 1, accident := some .unwritable, tree := t }) ∧
      (¬Unwritable settings → ¬NamesReport settings → ∃ text, run u t (.count r) =
        { exitCode := 1, messages := Text.unstyled ("❌ ERROR: " ++ text ++ "\n"), tree := t }) := by
  refine ⟨?_, ?_, ?_⟩
  · intro hreadable e h
    obtain ⟨text, hmessage⟩ := Options.message_of_ofSection hreadable h
    refine ⟨text, hmessage, fun u t r hsettings hreport => ?_⟩
    exact run_of_worded hsettings hreport h hmessage
  · intro hunreadable
    obtain ⟨e, h, hmessage⟩ := Options.ofSection_of_unreadable hunreadable
    refine ⟨e, h, hmessage, fun u t r hsettings hreport => ?_⟩
    exact run_of_unworded hsettings hreport h hmessage
  · intro u t r hsettings
    constructor
    · intro hunwritable
      rw [run_of_unplanned (plan_of_unwritable hsettings hunwritable r.languagesFile),
        outcome_accident]
    · intro hwritable hreport
      obtain ⟨text, hplan⟩ := exists_plan_of_not_namesReport hsettings hwritable hreport
      exact ⟨text, by rw [run_of_unplanned (hplan r.languagesFile), outcome_reported]⟩

theorem namesReport_of_nothing (hsort : Value.entry? settings "sort" = none)
    (htype : Value.entry? settings "output_type" = none) : NamesReport settings := by
  refine ⟨⟨_, .code, by rw [word, hsort], rfl, by simp⟩, _, .table, by rw [word, htype], rfl⟩

/-- A misspelled option is reported, and so is an order that there is not; a number or a day among
the keys, or a day in place of a list, ends the program. -/
theorem run_of_section_instances :
    let u := Services.plain
    let mistyped := Settings.configured (Text.Utf8.encode "count:\n  exclude_exts: [json]\n".toList)
    let numbered := Settings.configured (Text.Utf8.encode "count:\n  1: x\n".toList)
    let dated := Settings.configured
      (Text.Utf8.encode "count:\n  include_lang: 2024-01-31\n".toList)
    let unsorted := Settings.configured (Text.Utf8.encode "count:\n  sort: size\n".toList)
    run u mistyped (.count { paths := [{}] }) =
      { exitCode := 1
        messages := "❌ ERROR: invalid configuration: unknown option(s): exclude_exts\n"
        tree := mistyped } ∧
    run u numbered (.count { paths := [{}] }) =
      { exitCode := 1, accident := some (.options .unknownKey), tree := numbered } ∧
    run u dated (.count { paths := [{}] }) =
      { exitCode := 1, accident := some (.options (.items .notItems)), tree := dated } ∧
    ∃ text, run u unsorted (.count { paths := [{}] }) =
      { exitCode := 1, messages := Text.unstyled ("❌ ERROR: " ++ text ++ "\n"), tree := unsorted } := by
  intro u mistyped numbered dated unsorted
  refine ⟨?_, ?_, ?_, ?_⟩
  · let settings : List (Value × Value) := [(.text "exclude_exts", .list [.text "json"])]
    have hparse : u.parse (Registry.unifyBreaks [] "count:\n  exclude_exts: [json]\n".toList) =
        .ok (.mapping [(.text "count", .mapping settings)]) := by decide +kernel
    have hsettings : settingsFor u mistyped { paths := [{}] } = .ok settings :=
      settingsFor_configured (Fallible.toOption_eq_some.mp (by decide)) hparse
    have hrefused : Options.ofSection settings = .error (.unknown ["exclude_exts"]) := by cbv
    have hreadable : ¬Options.Unreadable settings := by
      intro hunreadable
      obtain ⟨e, he, hnone⟩ := Options.ofSection_of_unreadable hunreadable
      cases hrefused.symm.trans he
      cases hnone
    obtain ⟨_, ⟨⟩, hrun⟩ := (run_of_section settings).1 hreadable _ hrefused
    have hwords : Text.unstyled ("❌ ERROR: invalid configuration: " ++
        ("unknown option(s): " ++ ", ".intercalate ["exclude_exts"]) ++ "\n") =
        "❌ ERROR: invalid configuration: unknown option(s): exclude_exts\n" := by
      decide +kernel
    exact hwords ▸ hrun _ _ _ hsettings (namesReport_of_nothing rfl rfl)
  · let settings : List (Value × Value) := [(.int 1, .text "x")]
    have hparse : u.parse (Registry.unifyBreaks [] "count:\n  1: x\n".toList) =
        .ok (.mapping [(.text "count", .mapping settings)]) := by decide +kernel
    have hsettings : settingsFor u numbered { paths := [{}] } = .ok settings :=
      settingsFor_configured (Fallible.toOption_eq_some.mp (by decide)) hparse
    have hunreadable : Options.Unreadable settings :=
      .key (.int 1, .text "x") List.mem_cons_self fun name h => by cases h
    have hrefused : Options.ofSection settings = .error .unknownKey := rfl
    obtain ⟨e, he, -, hrun⟩ := (run_of_section settings).2.1 hunreadable
    cases hrefused.symm.trans he
    exact hrun _ _ _ hsettings (namesReport_of_nothing rfl rfl)
  · let settings : List (Value × Value) := [(.text "include_lang", .day ⟨2024, 1, 31⟩)]
    have hparse : u.parse (Registry.unifyBreaks [] "count:\n  include_lang: 2024-01-31\n".toList) =
        .ok (.mapping [(.text "count", .mapping settings)]) := by decide +kernel
    have hsettings : settingsFor u dated { paths := [{}] } = .ok settings :=
      settingsFor_configured (Fallible.toOption_eq_some.mp (by decide)) hparse
    have hrefused : Options.ofSection settings = .error (.items .notItems) := rfl
    have hunreadable := Options.unreadable_of_ofSection hrefused rfl
    obtain ⟨e, he, -, hrun⟩ := (run_of_section settings).2.1 hunreadable
    cases hrefused.symm.trans he
    exact hrun _ _ _ hsettings (namesReport_of_nothing rfl rfl)
  · let settings : List (Value × Value) := [(.text "sort", .text "size")]
    have hparse : u.parse (Registry.unifyBreaks [] "count:\n  sort: size\n".toList) =
        .ok (.mapping [(.text "count", .mapping settings)]) := by decide +kernel
    have hsettings : settingsFor u unsorted { paths := [{}] } = .ok settings :=
      settingsFor_configured (Fallible.toOption_eq_some.mp (by decide)) hparse
    have hwritable : ¬Unwritable settings := by
      rintro ⟨_, v, rfl | rfl, hv, -, hwritable⟩
      · cases hv
        cases hwritable
      · cases hv
    have hreport : ¬NamesReport settings := by
      rintro ⟨⟨_, key, ⟨⟩, hkey, -⟩, -⟩
      cases hkey
    exact ((run_of_section settings).2.2 u unsorted _ hsettings).2 hwritable hreport

/-- A number in place of a list of extensions is not reported. -/
theorem run_of_number_for_list :
    let u := Services.plain
    let numbered := Settings.configured (Text.Utf8.encode "count:\n  exclude_ext: 5\n".toList)
    Options.ofSection [(.text "exclude_ext", .int 5)] = .error (.items .notItems) ∧
      (Options.Refusal.items .notItems).message = none ∧
      run u numbered (.count { paths := [{}] }) =
        { exitCode := 1, accident := some (.options (.items .notItems)), tree := numbered } := by
  intro u numbered
  have hrefused : Options.ofSection [(.text "exclude_ext", .int 5)] = .error (.items .notItems) :=
    rfl
  have hparse : u.parse (Registry.unifyBreaks [] "count:\n  exclude_ext: 5\n".toList) =
      .ok (.mapping [(.text "count", .mapping [(.text "exclude_ext", .int 5)])]) := by
    decide +kernel
  have hsettings : settingsFor u numbered { paths := [{}] } = .ok [(.text "exclude_ext", .int 5)] :=
    settingsFor_configured (Fallible.toOption_eq_some.mp (by decide)) hparse
  exact ⟨hrefused, rfl, run_of_unworded hsettings (namesReport_of_nothing rfl rfl) hrefused rfl⟩

end LineCensus.CommandLine
