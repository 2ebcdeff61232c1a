import LineCensus.CommandLine.Run
import LineCensus.Proofs.Settings.Fields

/-!
# Plans of counts

What had to go well for a count to be planned, step by step.  A number of workers on the command
line is above zero, and it is the number that the survey has.
-/

namespace LineCensus

theorem Survey.make_eq_ok {options : Options} {detector : Detector} {encoder : List Char → Nat}
    {s : Survey} :
    Survey.make options detector encoder = .ok s ↔ ∃ pathPatterns,
      PathPatterns.make options.nameMatch options.nameNotMatch options.dirMatch
        options.dirNotMatch = .ok pathPatterns ∧
          s = { options, detector, pathPatterns, encoder } := by
  rw [Survey.make, Fallible.bind_eq_ok]
  simp only [Except.ok.injEq, eq_comm]

namespace CommandLine

variable {u : Services} {t : FileTree} {r : CountRequest}

/-! ## The request -/

theorem workers_pos {text : Option String} {n : Int} (h : workers text = .ok (some n)) : 0 < n := by
  unfold workers at h
  split at h
  · cases h
  · split at h
    · split at h
      · next hpos =>
        cases h
        exact hpos
      · cases h
    · cases h

theorem workers_of_countRequest {a : Arguments CountOption} (h : countRequest t a = .ok r) :
    workers (a.value? .jobs) = .ok r.jobs := by
  obtain ⟨paths, -, h⟩ := Fallible.bind_eq_ok.mp h
  obtain ⟨jobs, hjobs, h⟩ := Fallible.bind_eq_ok.mp h
  obtain ⟨file, -, h⟩ := Fallible.bind_eq_ok.mp h
  split at h
  · cases h
  · cases h
    exact hjobs

theorem exists_countRequest {args : List String} (h : Request.ofArgs t args = .ok (.count r)) :
    ∃ a, countRequest t a = .ok r := by
  obtain ⟨general, -, h⟩ := Fallible.bind_eq_ok.mp h
  split at h
  · cases h
  · cases h
  · cases h
  · next command args _ _ =>
    unfold commandRequest at h
    split at h
    · obtain ⟨a, -, h⟩ := Fallible.bind_eq_ok.mp h
      split at h
      · cases h
      · obtain ⟨_, hrequest, ⟨⟩⟩ := Fallible.map_eq_ok.mp h
        exact ⟨a, hrequest⟩
    · obtain ⟨a, -, h⟩ := Fallible.bind_eq_ok.mp h
      split at h
      · cases h
      · obtain ⟨file, -, h⟩ := Fallible.bind_eq_ok.mp h
        split at h <;> cases h
    · cases h

theorem jobs_pos {args : List String} (h : Request.ofArgs t args = .ok (.count r)) {n : Int}
    (hjobs : r.jobs = some n) : 0 < n := by
  obtain ⟨a, ha⟩ := exists_countRequest h
  have hworkers := workers_of_countRequest ha
  rw [hjobs] at hworkers
  exact workers_pos hworkers

/-! ## The plan -/

theorem plan_eq_ok {p : Plan} (h : plan u t r = .ok p) :
    ∃ settings sort type options registry survey, settingsFor u t r = .ok settings ∧
      word settings "sort" Ranking.code.text = .ok sort ∧ keyFor sort = .ok p.key ∧
      word settings "output_type" Format.table.text = .ok type ∧ typeFor type = .ok p.type ∧
      optionsFor settings = .ok options ∧ registryFor u t r.languagesFile = .ok registry ∧
      Survey.make options { registry, watched := r.debug } u.encoder = .ok survey ∧
      p.byFile = isOn settings "by_file" ∧ (p.byFile = true → p.key ≠ .files) ∧
      p.survey = { survey with watched := r.debug } := by
  obtain ⟨settings, hsettings, h⟩ := Fallible.bind_eq_ok.mp h
  obtain ⟨sort, hsort, h⟩ := Fallible.bind_eq_ok.mp h
  obtain ⟨outputType, houtputType, h⟩ := Fallible.bind_eq_ok.mp h
  obtain ⟨key, hkey, h⟩ := Fallible.bind_eq_ok.mp h
  split at h
  · cases h
  · next hcombined =>
    obtain ⟨type, htype, h⟩ := Fallible.bind_eq_ok.mp h
    obtain ⟨options, hoptions, h⟩ := Fallible.bind_eq_ok.mp h
    obtain ⟨registry, hregistry, h⟩ := Fallible.bind_eq_ok.mp h
    split at h
    · next survey hsurvey =>
      cases h
      refine ⟨settings, sort, outputType, options, registry, survey, hsettings, hsort, hkey,
        houtputType, htype, hoptions, hregistry, hsurvey, rfl, ?_, rfl⟩
      intro hby hfiles
      rw [Bool.and_eq_true, not_and] at hcombined
      exact hcombined hby (beq_iff_eq.mpr hfiles)
    · cases h

theorem word_eq_error_iff {settings : List (Value × Value)} {name default : String}
    {f : Failure} :
    word settings name default = .error f ↔ f = .accident .unwritable ∧
      ∃ v, Value.entry? settings name = some v ∧ v.isNothing = false ∧ v.isWritable = false := by
  rw [word]
  cases Value.entry? settings name with
  | none => exact ⟨nofun, fun ⟨_, _, h, _⟩ => nomatch h⟩
  | some v =>
    dsimp only
    split
    · next hnothing =>
      refine ⟨nofun, ?_⟩
      rintro ⟨-, _, ⟨⟩, hsomething, -⟩
      cases hnothing.symm.trans hsomething
    · next hsomething =>
      split
      · next hwritable =>
        refine ⟨nofun, ?_⟩
        rintro ⟨-, _, ⟨⟩, -, hlong⟩
        cases hwritable.symm.trans hlong
      · next hlong =>
        constructor
        · rintro ⟨⟩
          exact ⟨rfl, v, rfl, Bool.not_eq_true _ ▸ hsomething, Bool.not_eq_true _ ▸ hlong⟩
        · rintro ⟨rfl, -⟩
          rfl

theorem reported_of_keyFor {name : String} {f : Failure} (h : keyFor name = .error f) :
    ∃ text, f = .reported text := by
  unfold keyFor at h
  split at h <;> cases h
  exact ⟨_, rfl⟩

theorem reported_of_typeFor {name : String} {f : Failure} (h : typeFor name = .error f) :
    ∃ text, f = .reported text := by
  unfold typeFor at h
  split at h <;> cases h
  exact ⟨_, rfl⟩

theorem run_of_planned {planned : Plan} (h : plan u t r = .ok planned) :
    run u t (.count r) = carryOut t r planned := by
  rw [run, h]

theorem run_of_unplanned {f : Failure} (h : plan u t r = .error f) :
    run u t (.count r) = f.outcome t "" := by
  rw [run, h]

theorem outcome_reported (t : FileTree) (text : String) :
    (Failure.reported text).outcome t "" =
      { exitCode := 1, messages := Text.unstyled ("❌ ERROR: " ++ text ++ "\n"), tree := t } := by
  have hwords : "" ++ s!"❌ ERROR: {text}\n" = "❌ ERROR: " ++ text ++ "\n" := String.empty_append
  rw [Failure.outcome, hwords]

theorem outcome_accident (t : FileTree) (cause : Accident) :
    (Failure.accident cause).outcome t "" =
      { exitCode := 1, accident := some cause, tree := t } := by
  have hnothing : Text.unstyled "" = "" := by simp [Text.unstyled, Text.dropStyles]
  rw [Failure.outcome, hnothing]

/-- A number of workers that is not zero is laid over what the configuration says. -/
theorem entry?_settingsFor_jobs {settings : List (Value × Value)}
    (h : settingsFor u t r = .ok settings) {n : Int} (hjobs : r.jobs = some n) (hn : n ≠ 0) :
    Value.entry? settings "jobs" = some (.int n) := by
  obtain ⟨config, -, h⟩ := Fallible.bind_eq_ok.mp h
  have hlast : r.settings = r.settings.dropLast ++ [("jobs", .int n)] := by
    simp [CountRequest.settings, hjobs]
  have hset : Settings.isUnset (.int n) = false := by
    simpa [Settings.isUnset, Value.isNothing] using hn
  have hoverlay : Value.entry? (Settings.overlay config "count" r.settings) "jobs" =
      some (.int n) := by
    rw [Settings.entry?_overlay, hlast, List.filter_append, List.reverse_append]
    simp [hset]
  cases h
  split
  · rw [Value.entry?_setEntry, if_neg (by decide), hoverlay]
  · exact hoverlay

theorem jobs_of_plan {p : Plan} (h : plan u t r = .ok p) {n : Int} (hjobs : r.jobs = some n)
    (hn : n ≠ 0) : p.survey.options.jobs = some n := by
  obtain ⟨settings, _, _, options, registry, survey, hsettings, -, -, -, -, hoptions, -, hsurvey, -,
    -, hp⟩ := plan_eq_ok h
  obtain ⟨pathPatterns, -, rfl⟩ := Survey.make_eq_ok.mp hsurvey
  rw [hp]
  have hentry := entry?_settingsFor_jobs hsettings hjobs hn
  exact Options.jobs_of_ofSection (Fallible.mapError_eq_ok.mp hoptions) hentry

end CommandLine

end LineCensus
